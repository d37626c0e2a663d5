import Provisioner.Json.Numeral
import Provisioner.Json.Quotation
/-!
# The grammar of JSON texts

What a text says, told apart from how it is written. `Tree` is the content of a text: members in
their order and with their repetitions, numbers by their numerals. `Spells` relates it to all the
texts that have this content, whatever blanks stand between the tokens and however the characters of
its strings are escaped.

Every relation is between a text and what is left of it behind the part in question, as readers see
it. So `Spells (.value t) cs rest` says that `cs` is a text of `t` followed by `rest`.
-/

namespace Provisioner.Json

/-! ### Between values -/

/-- Only blanks stand between the beginning of a text and its end `rest`. -/
inductive Blanks : List Char → List Char → Prop where
  | nil {cs : List Char} : Blanks cs cs
  | cons {c : Char} {cs rest : List Char} :
      isBlank c = true → Blanks cs rest → Blanks (c :: cs) rest

/-- A value that ends in front of `rest` cannot go on there. -/
def Delimited (rest : List Char) : Prop :=
  ∀ c ∈ rest.head?, isBlank c = true ∨ c = ',' ∨ c = ']' ∨ c = '\x7d'

/-- What stands in front of an item or a key: blanks, and behind an earlier one also a comma. -/
inductive Lead : (first : Bool) → List Char → List Char → Prop where
  | first {cs rest : List Char} : Blanks cs rest → Lead true cs rest
  | later {cs ds rest : List Char} : Blanks cs (',' :: ds) → Blanks ds rest → Lead false cs rest

/-! ### Numerals -/

namespace Numeral

/-- The digits in front of the point: a zero alone, or digits that do not begin with one. -/
inductive Whole : List Char → Prop where
  | zero : Whole ['0']
  | positive {d : Char} {ds : List Char} :
      d ≠ '0' → d.isDigit = true → (∀ e ∈ ds, e.isDigit = true) → Whole (d :: ds)

/-- Digits, at least one. -/
inductive Digits : List Char → Prop where
  | cons {d : Char} {ds : List Char} :
      d.isDigit = true → (∀ e ∈ ds, e.isDigit = true) → Digits (d :: ds)

/-- The digits behind the point, and how they are written with it. -/
inductive Fraction : List Char → List Char → Prop where
  | absent : Fraction [] []
  | present {ds : List Char} : Digits ds → Fraction ds ('.' :: ds)

/-- Sign and digits of an exponent, and how they are written with its mark. -/
inductive Exponent : Option (Bool × List Char) → List Char → Prop where
  | absent : Exponent none []
  | unsigned {e : Char} {ds : List Char} :
      e = 'e' ∨ e = 'E' → Digits ds → Exponent (some (false, ds)) (e :: ds)
  | plus {e : Char} {ds : List Char} :
      e = 'e' ∨ e = 'E' → Digits ds → Exponent (some (false, ds)) (e :: '+' :: ds)
  | minus {e : Char} {ds : List Char} :
      e = 'e' ∨ e = 'E' → Digits ds → Exponent (some (true, ds)) (e :: '-' :: ds)

/-- How the sign in front of a numeral is written. -/
def sign (negative : Bool) : List Char := if negative then ['-'] else []

/-- The texts of a numeral. -/
inductive Spells : Numeral → List Char → Prop where
  | mk {negative : Bool} {whole fraction point mark : List Char}
      {exponent : Option (Bool × List Char)} :
      Whole whole → Fraction fraction point → Exponent exponent mark →
      Spells ⟨negative, whole, fraction, exponent⟩ (sign negative ++ (whole ++ (point ++ mark)))

end Numeral

/-! ### Strings -/

namespace Quotation

/-- The escapes of a character, behind the backslash. -/
inductive Escape : Char → List Char → List Char → Prop where
  | quote {rest : List Char} : Escape '"' ('"' :: rest) rest
  | backslash {rest : List Char} : Escape '\\' ('\\' :: rest) rest
  | solidus {rest : List Char} : Escape '/' ('/' :: rest) rest
  | backspace {rest : List Char} : Escape '\x08' ('b' :: rest) rest
  | formFeed {rest : List Char} : Escape '\x0c' ('f' :: rest) rest
  | lineFeed {rest : List Char} : Escape '\n' ('n' :: rest) rest
  | carriageReturn {rest : List Char} : Escape '\r' ('r' :: rest) rest
  | tab {rest : List Char} : Escape '\t' ('t' :: rest) rest
  | codePoint {x a b c d : Char} {rest : List Char} :
      quad? a b c d = some x.toNat → Escape x ('u' :: a :: b :: c :: d :: rest) rest
  | surrogates {x a b c d a' b' c' d' : Char} {leading trailing : Nat} {rest : List Char} :
      quad? a b c d = some leading → quad? a' b' c' d' = some trailing →
      isLeading leading = true → isTrailing trailing = true →
      x.toNat = 0x10000 + (leading - 0xD800) * 0x400 + (trailing - 0xDC00) →
      Escape x ('u' :: a :: b :: c :: d :: '\\' :: 'u' :: a' :: b' :: c' :: d' :: rest) rest

/-- The ways to write characters behind the opening quote, up to and with the closing one. -/
inductive Spells : List Char → List Char → List Char → Prop where
  | close {rest : List Char} : Spells [] ('"' :: rest) rest
  | plain {x : Char} {xs cs rest : List Char} :
      x ≠ '"' → x ≠ '\\' → ¬ x < ' ' → Spells xs cs rest → Spells (x :: xs) (x :: cs) rest
  | escape {x : Char} {xs cs ds rest : List Char} :
      Escape x cs ds → Spells xs ds rest → Spells (x :: xs) ('\\' :: cs) rest

/-- The letters that are an escape together with a backslash. -/
def letters : List Char := ['"', '\\', '/', 'b', 'f', 'n', 'r', 't']

/-- A string in which surrogates need not pair, behind the opening quote. -/
inductive Passes : List Char → List Char → Prop where
  | close {rest : List Char} : Passes ('"' :: rest) rest
  | plain {x : Char} {cs rest : List Char} :
      x ≠ '"' → x ≠ '\\' → ¬ x < ' ' → Passes cs rest → Passes (x :: cs) rest
  | letter {x : Char} {cs rest : List Char} :
      x ∈ letters → Passes cs rest → Passes ('\\' :: x :: cs) rest
  | quad {a b c d : Char} {n : Nat} {cs rest : List Char} :
      quad? a b c d = some n → Passes cs rest → Passes ('\\' :: 'u' :: a :: b :: c :: d :: cs) rest

/-- What a string says: characters, or nothing when its surrogates do not pair. -/
inductive Says : Option String → List Char → List Char → Prop where
  | characters {s : String} {cs rest : List Char} : Spells s.toList cs rest → Says (some s) cs rest
  | nothing {cs rest : List Char} : Passes cs rest → (∀ xs, ¬ Spells xs cs rest) → Says none cs rest

end Quotation

/-! ### Values -/

/-- The content of a JSON text. A string or a key without a text is one whose surrogates do not
    pair. -/
inductive Tree where
  | null
  | boolean (b : Bool)
  | number (n : Numeral)
  | string (s : Option String)
  | array (items : List Tree)
  | object (members : List (Option String × Tree))

namespace Tree

/-- The members of an object, in order. -/
abbrev Members := List (Option String × Tree)

/-- A part of a text: a value, or what is left of a list or an object behind its opening bracket or
    behind an item or member of it. -/
inductive Part where
  | value (t : Tree)
  | items (first : Bool) (ts : List Tree)
  | members (first : Bool) (ms : Members)

/-- The texts of a part. -/
inductive Spells : Part → List Char → List Char → Prop where
  | null {rest : List Char} : Spells (.value .null) ('n' :: 'u' :: 'l' :: 'l' :: rest) rest
  | yes {rest : List Char} : Spells (.value (.boolean true)) ('t' :: 'r' :: 'u' :: 'e' :: rest) rest
  | no {rest : List Char} :
      Spells (.value (.boolean false)) ('f' :: 'a' :: 'l' :: 's' :: 'e' :: rest) rest
  | number {n : Numeral} {ds rest : List Char} :
      n.Spells ds → Spells (.value (.number n)) (ds ++ rest) rest
  | string {s : Option String} {cs rest : List Char} :
      Quotation.Says s cs rest → Spells (.value (.string s)) ('"' :: cs) rest
  | array {ts : List Tree} {cs rest : List Char} :
      Spells (.items true ts) cs rest → Spells (.value (.array ts)) ('[' :: cs) rest
  | object {ms : Members} {cs rest : List Char} :
      Spells (.members true ms) cs rest → Spells (.value (.object ms)) ('\x7b' :: cs) rest
  | noItem {first : Bool} {cs rest : List Char} :
      Blanks cs (']' :: rest) → Spells (.items first []) cs rest
  | item {first : Bool} {t : Tree} {ts : List Tree} {cs ds es rest : List Char} :
      Lead first cs ds → Spells (.value t) ds es → Spells (.items false ts) es rest →
      Spells (.items first (t :: ts)) cs rest
  | noMember {first : Bool} {cs rest : List Char} :
      Blanks cs ('\x7d' :: rest) → Spells (.members first []) cs rest
  | member {first : Bool} {key : Option String} {t : Tree} {ms : Members}
      {cs ds es fs gs hs rest : List Char} :
      Lead first cs ('"' :: ds) → Quotation.Says key ds es → Blanks es (':' :: fs) →
      Blanks fs gs → Spells (.value t) gs hs → Spells (.members false ms) hs rest →
      Spells (.members first ((key, t) :: ms)) cs rest

/-- A whole text of a value: nothing but blanks stands around it. -/
inductive SpelledBy (t : Tree) : List Char → Prop where
  | mk {cs ds rest : List Char} :
      Blanks cs ds → Spells (.value t) ds rest → Blanks rest [] → SpelledBy t cs

end Tree

end Provisioner.Json
