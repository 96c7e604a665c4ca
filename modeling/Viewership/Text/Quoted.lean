/-
# Viewership.Text.Quoted -- text in double quotes

Quoted text is legible on any terminal: the quote, the backslash and what has no glyph of its own
are escaped, and all else stands for itself.
-/
import Viewership.Text.Glyph

namespace Viewership.Quoted

/-- The code point of a character between braces, in lower-case hexadecimal without padding. -/
def codePoint (c : Char) : String :=
  "\\u\x7b" ++ String.ofList (Nat.toDigits 16 c.toNat) ++ "\x7d"

/-- A character as it stands inside quotes. -/
def escape (c : Char) : String :=
  match c with
  | '\x00' => "\\0"
  | '\t' => "\\t"
  | '\n' => "\\n"
  | '\r' => "\\r"
  | '"' => "\\\""
  | '\\' => "\\\\"
  | c => if Glyph.isGlyphless c then codePoint c else c.toString

theorem isGlyphless_digitChar {k : Nat} (h : k < 16) : Glyph.isGlyphless k.digitChar = false := by
  have hplain : ∀ k < 16, 0x20 ≤ k.digitChar.toNat ∧ k.digitChar.toNat < 0x7F := by decide
  exact Glyph.isGlyphless_of_ascii (hplain k h)

theorem isGlyphless_of_mem_toDigits (n : Nat) :
    ∀ d ∈ Nat.toDigits 16 n, Glyph.isGlyphless d = false := by
  induction n using Nat.strongRecOn with
  | ind n ih =>
    intro d hd
    rw [Nat.toDigits_eq_if (by decide)] at hd
    split at hd
    case isTrue hlt =>
      rw [List.mem_singleton.mp hd]
      exact isGlyphless_digitChar hlt
    case isFalse hge =>
      rcases List.mem_append.mp hd with hd | hd
      · exact ih (n / 16) (by omega) d hd
      · rw [List.mem_singleton.mp hd]
        exact isGlyphless_digitChar (Nat.mod_lt n (by decide))

theorem isGlyphless_of_mem_codePoint (c : Char) :
    ∀ d ∈ (codePoint c).toList, Glyph.isGlyphless d = false := by
  have hopen : ∀ d ∈ "\\u\x7b".toList, Glyph.isGlyphless d = false :=
    Glyph.isGlyphless_of_all_ascii (by decide)
  have hclose : ∀ d ∈ "\x7d".toList, Glyph.isGlyphless d = false :=
    Glyph.isGlyphless_of_all_ascii (by decide)
  intro d hd
  rw [codePoint, String.toList_append, String.toList_append, List.mem_append, List.mem_append] at hd
  rcases hd with (hd | hd) | hd
  · exact hopen d hd
  · rw [String.toList_ofList] at hd
    exact isGlyphless_of_mem_toDigits c.toNat d hd
  · exact hclose d hd

/-- What stands for a character inside quotes is legible, also where the character is not. -/
theorem isGlyphless_of_mem_escape (c : Char) :
    ∀ d ∈ (escape c).toList, Glyph.isGlyphless d = false := by
  unfold escape
  split
  -- the six characters with an escape of their own
  iterate 6 exact Glyph.isGlyphless_of_all_ascii (by decide)
  split
  case isTrue => exact isGlyphless_of_mem_codePoint _
  case isFalse hglyph =>
    intro d hd
    rw [Char.toString, String.toList_singleton, List.mem_singleton] at hd
    rw [hd, Bool.eq_false_iff]
    exact hglyph

/-- A mark and a space without width are escaped, an accented letter is not. -/
example : "\u0301\u200bé".toList.map escape = ["\\u\x7b301\x7d", "\\u\x7b200b\x7d", "é"] := by
  decide +kernel

end Quoted

/-- A text in double quotes, with every character escaped that needs it. -/
def quote (s : String) : String :=
  "\"" ++ String.join (s.toList.map Quoted.escape) ++ "\""

/-- A quoted text is legible, whatever the text is. -/
theorem isGlyphless_of_mem_quote (s : String) :
    ∀ d ∈ (quote s).toList, Glyph.isGlyphless d = false := by
  have hmark : ∀ d ∈ "\"".toList, Glyph.isGlyphless d = false :=
    Glyph.isGlyphless_of_all_ascii (by decide)
  intro d hd
  rw [quote, String.toList_append, String.toList_append, List.mem_append, List.mem_append] at hd
  rcases hd with (hd | hd) | hd
  · exact hmark d hd
  · rw [String.toList_join, List.flatMap_map] at hd
    obtain ⟨c, -, hd⟩ := List.mem_flatMap.mp hd
    exact Quoted.isGlyphless_of_mem_escape c d hd
  · exact hmark d hd

end Viewership
