import Mathlib.Data.List.Forall2

/-!
# Proofs — the grammar of JSON

What a JSON text is, said of lists of characters and without a reader.  The body of a string is
what stands between its quotes.  `IsBody` holds for every body; `Spells` only for those that give
characters, and says which: halves of surrogate pairs are bodies that spell nothing.  `Items` is
the inside of a bracket, cut into the texts of its items, and a well-formed value (`IsValue`) is a
scalar or a bracket around well-formed items.
-/

namespace AmqpReturns.Json

/-! ### Blanks -/

/-- Text that may stand between tokens. -/
def Blanks (cs : List Char) : Prop :=
  ∀ c ∈ cs, c ∈ [' ', '\t', '\n', '\r']

instance (cs : List Char) : Decidable (Blanks cs) :=
  List.decidableBAll (· ∈ [' ', '\t', '\n', '\r']) cs

/-- The text is `w` with blanks around it. -/
def Between (w text : List Char) : Prop :=
  ∃ bs bs', Blanks bs ∧ Blanks bs' ∧ text = bs ++ (w ++ bs')

/-! ### Strings -/

/-- A hexadecimal digit, in either case, and its value. -/
def IsHexDigit (c : Char) (x : Nat) : Prop :=
  "0123456789abcdef".toList[x]? = some c ∨ "0123456789ABCDEF".toList[x]? = some c

instance (c : Char) (x : Nat) : Decidable (IsHexDigit c x) :=
  inferInstanceAs (Decidable (_ ∨ _))

/-- Four hexadecimal digits and the number they write. -/
inductive IsHex : List Char → Nat → Prop where
  | four {a b c d : Char} {x y z u : Nat} (ha : IsHexDigit a x) (hb : IsHexDigit b y)
      (hc : IsHexDigit c z) (hd : IsHexDigit d u) :
      IsHex [a, b, c, d] (0x1000 * x + 0x100 * y + 0x10 * z + u)

/-- What may follow a backslash alone, and the character it stands for. -/
def shortEscapes : List (Char × Char) :=
  [('"', '"'), ('\\', '\\'), ('/', '/'), ('b', '\x08'), ('f', '\x0c'), ('n', '\n'), ('r', '\r'),
    ('t', '\t')]

/-- Characters that stand for themselves in a string. -/
def IsPlain (c : Char) : Prop :=
  0x20 ≤ c.toNat ∧ c ≠ '"' ∧ c ≠ '\\'

instance (c : Char) : Decidable (IsPlain c) :=
  inferInstanceAs (Decidable (_ ∧ _))

/-- The ways to write a character in a string.  A character above U+FFFF is escaped as a surrogate
pair. -/
inductive SpellsChar : List Char → Char → Prop where
  | plain {c : Char} (h : IsPlain c) : SpellsChar [c] c
  | short {e c : Char} (h : (e, c) ∈ shortEscapes) : SpellsChar ['\\', e] c
  | hex {ds : List Char} {c : Char} (h : IsHex ds c.toNat) : SpellsChar ('\\' :: 'u' :: ds) c
  | pair {ds ds' : List Char} {c : Char} {high low : Nat} (h : IsHex ds (0xD800 + high))
      (h' : IsHex ds' (0xDC00 + low)) (hhigh : high < 0x400) (hlow : low < 0x400)
      (hc : c.toNat = 0x10000 + 0x400 * high + low) :
      SpellsChar ('\\' :: 'u' :: (ds ++ '\\' :: 'u' :: ds')) c

/-- A body and the characters it spells. -/
inductive Spells : List Char → List Char → Prop where
  | nil : Spells [] []
  | cons {w k s : List Char} {c : Char} (hw : SpellsChar w c) (hk : Spells k s) :
      Spells (w ++ k) (c :: s)

/-- The body of a string.  Nothing is asked of the numbers that are written by four digits. -/
inductive IsBody : List Char → Prop where
  | nil : IsBody []
  | plain {c : Char} {k : List Char} (h : IsPlain c) (hk : IsBody k) : IsBody (c :: k)
  | short {e c : Char} {k : List Char} (h : (e, c) ∈ shortEscapes) (hk : IsBody k) :
      IsBody ('\\' :: e :: k)
  | hex {ds k : List Char} {n : Nat} (h : IsHex ds n) (hk : IsBody k) :
      IsBody ('\\' :: 'u' :: (ds ++ k))

/-- The string with the body `k`. -/
def quoted (k : List Char) : List Char :=
  '"' :: (k ++ ['"'])

/-! ### Numbers -/

/-- Digits, at least one. -/
def IsDigits (ds : List Char) : Prop :=
  ds ≠ [] ∧ ∀ d ∈ ds, d.isDigit

instance (ds : List Char) : Decidable (IsDigits ds) :=
  letI := List.decidableBAll (fun d : Char => d.isDigit = true) ds
  inferInstanceAs (Decidable (_ ∧ _))

/-- The integer part of a number: digits, of which the first is not a zero unless it is the only
one. -/
def IsInteger (ds : List Char) : Prop :=
  IsDigits ds ∧ (ds.head? = some '0' → ds = ['0'])

instance (ds : List Char) : Decidable (IsInteger ds) :=
  inferInstanceAs (Decidable (_ ∧ _))

/-- The fraction of a number, if there is one. -/
inductive IsFraction : List Char → Prop where
  | none : IsFraction []
  | some {ds : List Char} (h : IsDigits ds) : IsFraction ('.' :: ds)

/-- The exponent of a number, if there is one. -/
inductive IsExponent : List Char → Prop where
  | none : IsExponent []
  | some {e : Char} {sign ds : List Char} (he : e ∈ ['e', 'E']) (hs : sign ∈ [[], ['+'], ['-']])
      (h : IsDigits ds) : IsExponent (e :: (sign ++ ds))

/-- A number, of any size. -/
inductive IsNumber : List Char → Prop where
  | parts {sign i f e : List Char} (hs : sign ∈ [[], ['-']]) (hi : IsInteger i)
      (hf : IsFraction f) (he : IsExponent e) : IsNumber (sign ++ (i ++ (f ++ e)))

/-! ### Values -/

/-- A value without parts. -/
inductive IsScalar : List Char → Prop where
  | null : IsScalar "null".toList
  | flag (b : Bool) : IsScalar (toString b).toList
  | number {w : List Char} (h : IsNumber w) : IsScalar w
  | text {k : List Char} (h : IsBody k) : IsScalar (quoted k)

/-- The inside of a bracket up to and with the character `close` that ends it, and the texts of its
items.  All but the first item are preceded by a comma. -/
inductive Items (close : Char) : Bool → List (List Char) → List Char → Prop where
  | done {first : Bool} {bs : List Char} (hbs : Blanks bs) : Items close first [] (bs ++ [close])
  | head {bs w cs : List Char} {ws : List (List Char)} (hbs : Blanks bs)
      (h : Items close false ws cs) : Items close true (w :: ws) (bs ++ (w ++ cs))
  | next {bs bs' w cs : List Char} {ws : List (List Char)} (hbs : Blanks bs) (hbs' : Blanks bs')
      (h : Items close false ws cs) :
      Items close false (w :: ws) (bs ++ ',' :: (bs' ++ (w ++ cs)))

/-- A member of an object: the body of its key and the text of its value. -/
abbrev Member := List Char × List Char

/-- The ways to write a member. -/
inductive IsMember : Member → List Char → Prop where
  | mk {k bs bs' v : List Char} (hbs : Blanks bs) (hbs' : Blanks bs') :
      IsMember (k, v) (quoted k ++ (bs ++ ':' :: (bs' ++ v)))

/-- A list of the items `ws`. -/
inductive IsList : List (List Char) → List Char → Prop where
  | mk {ws : List (List Char)} {cs : List Char} (h : Items ']' true ws cs) : IsList ws ('[' :: cs)

/-- An object of the members `ms`. -/
inductive IsObject : List Member → List Char → Prop where
  | mk {ms : List Member} {ws : List (List Char)} {cs : List Char}
      (h : Items '\x7d' true ws cs) (hms : List.Forall₂ IsMember ms ws) :
      IsObject ms ('\x7b' :: cs)

/-- A well-formed value. -/
inductive IsValue : List Char → Prop where
  | scalar {w : List Char} (h : IsScalar w) : IsValue w
  | list {ws : List (List Char)} {w : List Char} (h : IsList ws w) (hws : ∀ v ∈ ws, IsValue v) :
      IsValue w
  | object {ms : List Member} {w : List Char} (h : IsObject ms w) (hk : ∀ m ∈ ms, IsBody m.1)
      (hv : ∀ m ∈ ms, IsValue m.2) : IsValue w

/-- The keys and the values of the members are well formed. -/
def WellFormed (ms : List Member) : Prop :=
  ∀ m ∈ ms, IsBody m.1 ∧ IsValue m.2

end AmqpReturns.Json
