import FieldRules.Json
import Mathlib.Data.List.Basic

/-! The grammar of JSON texts, production by production. Derivations count how deep arrays and objects
nest, and how many digits the whole numbers have; nothing else about a text is bounded. -/
namespace FieldRules.Json

def Blanks (t : Text) : Prop := ∀ c ∈ t, c = ' ' ∨ c = '\t' ∨ c = '\n' ∨ c = '\r'

def Digits (t : Text) : Prop := ∀ c ∈ t, c.isDigit

/-- A zero by itself, or digits that do not start with one. -/
inductive Whole : Text → Prop where
  | zero : Whole ['0']
  | digits {c : Char} {t : Text} (first : c.isDigit) (nonzero : c ≠ '0') (others : Digits t) :
      Whole (c :: t)

inductive Fraction : Text → Prop where
  | absent : Fraction []
  | digits {c : Char} {t : Text} (first : c.isDigit) (others : Digits t) : Fraction ('.' :: c :: t)

inductive Sign : Text → Prop where
  | absent : Sign []
  | plus : Sign ['+']
  | minus : Sign ['-']

inductive Exponent : Text → Prop where
  | absent : Exponent []
  | digits {e c : Char} {s t : Text} (mark : e = 'e' ∨ e = 'E') (sign : Sign s)
      (first : c.isDigit) (others : Digits t) : Exponent (e :: (s ++ c :: t))

/-- A number without its minus sign. Without fraction and exponent it has at most `digits` digits. -/
def Unsigned (digits : Nat) (t : Text) : Prop :=
  ∃ whole fraction exponent, t = whole ++ (fraction ++ exponent) ∧ Whole whole ∧ Fraction fraction ∧
    Exponent exponent ∧ (fraction ++ exponent = [] → whole.length ≤ digits)

inductive Number (digits : Nat) : Text → Prop where
  | positive {t : Text} (unsigned : Unsigned digits t) : Number digits t
  | negative {t : Text} (unsigned : Unsigned digits t) : Number digits ('-' :: t)

inductive Characters : Text → Prop where
  | nil : Characters []
  | plain {c : Char} {t : Text} (quote : c ≠ '"') (backslash : c ≠ '\\') (printable : 0x20 ≤ c.toNat)
      (others : Characters t) : Characters (c :: t)
  | short {c : Char} {t : Text} (letter : c ∈ "\"\\/bfnrt".toList) (others : Characters t) :
      Characters ('\\' :: c :: t)
  | code {x t : Text} (length : x.length = 4) (hexadecimal : ∀ c ∈ x, isHexadecimal c)
      (others : Characters t) : Characters ('\\' :: 'u' :: (x ++ t))

def Quoted (t : Text) : Prop := ∃ body, t = '"' :: (body ++ ['"']) ∧ Characters body

def Container.opener : Container → Char
  | .array => '['
  | .object => '\x7b'

def Container.closer : Container → Char
  | .array => ']'
  | .object => '\x7d'

inductive Production where
  | value
  | member
  /-- The parts of an array or object, with commas between them. -/
  | parts (container : Container)

def Container.part : Container → Production
  | .array => .value
  | .object => .member

/-- A text of a production in which arrays and objects nest at most as deep as said. -/
inductive Derives (digits : Nat) : Production → Nat → Text → Prop where
  | name {depth : Nat} {t : Text} (known : t ∈ ["true".toList, "false".toList, "null".toList]) :
      Derives digits .value depth t
  | number {depth : Nat} {t : Text} (number : Number digits t) : Derives digits .value depth t
  | string {depth : Nat} {t : Text} (quoted : Quoted t) : Derives digits .value depth t
  | empty {depth : Nat} {w : Text} (k : Container) (blanks : Blanks w) :
      Derives digits .value (depth + 1) (k.opener :: (w ++ [k.closer]))
  | filled {depth : Nat} {w ps w' : Text} (k : Container) (before : Blanks w)
      (parts : Derives digits (.parts k) depth ps) (after : Blanks w') :
      Derives digits .value (depth + 1) (k.opener :: (w ++ (ps ++ (w' ++ [k.closer]))))
  | member {depth : Nat} {q w w' v : Text} (key : Quoted q) (before : Blanks w) (after : Blanks w')
      (value : Derives digits .value depth v) :
      Derives digits .member depth (q ++ (w ++ ':' :: (w' ++ v)))
  | last {depth : Nat} {k : Container} {p : Text} (part : Derives digits k.part depth p) :
      Derives digits (.parts k) depth p
  | more {depth : Nat} {k : Container} {p w w' ps : Text} (part : Derives digits k.part depth p)
      (before : Blanks w) (after : Blanks w') (parts : Derives digits (.parts k) depth ps) :
      Derives digits (.parts k) depth (p ++ (w ++ ',' :: (w' ++ ps)))

def Document (digits depth : Nat) (t : Text) : Prop :=
  ∃ w v w', t = w ++ (v ++ w') ∧ Blanks w ∧ Derives digits .value depth v ∧ Blanks w'

private theorem Derives.mono {digits depth depth' : Nat} {p : Production} {t : Text}
    (h : Derives digits p depth t) (hd : depth ≤ depth') : Derives digits p depth' t := by
  induction h generalizing depth' with
  | name known => exact .name known
  | number number => exact .number number
  | string quoted => exact .string quoted
  | empty k blanks =>
    obtain ⟨n, rfl⟩ := Nat.exists_eq_add_of_le' (Nat.one_le_of_lt hd)
    exact .empty k blanks
  | filled k before _ after ih =>
    obtain ⟨n, rfl⟩ := Nat.exists_eq_add_of_le' (Nat.one_le_of_lt hd)
    exact .filled k before (ih (by omega)) after
  | member key before after _ ih => exact .member key before after (ih hd)
  | last _ ih => exact .last (ih hd)
  | more _ before after _ ih ihs => exact .more (ih hd) before after (ihs hd)

/-- More room derives no less. -/
theorem Document.mono {digits depth depth' : Nat} {t : Text} (h : Document digits depth t)
    (hd : depth ≤ depth') : Document digits depth' t := by
  obtain ⟨w, v, w', ht, hw, hv, hw'⟩ := h
  exact ⟨w, v, w', ht, hw, hv.mono hd, hw'⟩

/-! ### Blanks and digits -/

theorem blanks_nil : Blanks [] := by simp [Blanks]

theorem isBlank_iff {c : Char} : isBlank c ↔ c = ' ' ∨ c = '\t' ∨ c = '\n' ∨ c = '\r' := by
  simp [isBlank, or_assoc]

theorem blanks_cons {c : Char} {t : Text} : Blanks (c :: t) ↔ isBlank c ∧ Blanks t := by
  simp [Blanks, isBlank_iff]

theorem digits_nil : Digits [] := by simp [Digits]

theorem digits_cons {c : Char} {t : Text} : Digits (c :: t) ↔ c.isDigit ∧ Digits t := by
  simp [Digits]

end FieldRules.Json
