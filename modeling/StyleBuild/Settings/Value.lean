import StyleBuild.Number.Shortest
import StyleBuild.Text.Quoted

/-!
# Raw settings

Before they are checked, settings are a tree of values in whatever shape the user wrote.  Keys are
scalars: a document may bind numbers and dates, although no setting has such a name.

All values are plain data, as a document can hold them.  So a pattern is given as a text, and never
as one that was compiled before, with flags that its text does not show.

A mapping has each key once.  Numbers are equal as keys when they are equal as numbers, so that
`1`, `1.0` and `true` are one key (`Scalar.sameKey`).
-/

namespace StyleBuild

/-- A value without parts. -/
inductive Scalar
  | null
  | bool (b : Bool)
  | int (n : Int)
  | float (x : Double)
  | text (t : Text)
  | bytes (b : Bytes)
  /-- A date or a time, in the form in which it is shown; no setting takes one.  A time with a zone
  is a moment, counted in millionths of a second. -/
  | stamp (shown : Text) (moment : Option Int)
  deriving DecidableEq, Repr

namespace Scalar

/-- The number that a scalar is equal to. -/
def number? : Scalar → Option Double ⊕ Int
  | .bool b => .inr (if b then 1 else 0)
  | .int n => .inr n
  | .float x => match x.toInt? with
    | some n => .inr n
    | none => .inl (some x)
  | _ => .inl none

/-- The moment that a scalar is. -/
def moment? : Scalar → Option Int
  | .stamp _ moment => moment
  | _ => none

/-- Whether two scalars are the same key: numbers by what they are equal to, and moments in whatever
zone they are given. -/
def sameKey (a b : Scalar) : Bool :=
  match a.number?, b.number? with
  | .inr m, .inr n => m = n
  | .inl (some .nan), .inl (some .nan) => false
  | .inl (some x), .inl (some y) => x = y
  | .inl none, .inl none =>
    match a.moment?, b.moment? with
    | some m, some n => m = n
    | _, _ => a = b
  | _, _ => false

/-- A byte inside a quoted byte string. -/
def shownByte (quote : Char) (b : UInt8) : Text :=
  let c := Char.ofNat b.toNat
  if b < 0x7F && 0x20 ≤ b || c = '\n' || c = '\r' || c = '\t' then Text.escaped quote c
  else '\\' :: 'x' :: Text.hex 2 b.toNat

/-- A key as it is shown in the place of a problem. -/
def shown : Scalar → Text
  | .null => "None".toList
  | .bool b => if b then ['1'] else ['0']
  | .int n => Text.ofInt n
  | .float x => x.text
  | .text t => t
  | .bytes b =>
    let quote := Text.quoteFor (b.map fun x => Char.ofNat x.toNat)
    'b' :: quote :: b.flatMap (shownByte quote) ++ [quote]
  | .stamp s _ => s

end Scalar

/-- A value of raw settings. -/
inductive Value
  | scalar (s : Scalar)
  | list (items : List Value)
  | map (entries : List (Scalar × Value))
  | set (items : List Scalar)
  deriving Repr

instance : Inhabited Value := ⟨.scalar .null⟩

namespace Value

/-- The value bound to a text. -/
def find? (name : Text) : List (Scalar × Value) → Option Value
  | [] => none
  | (k, v) :: r => if k = .text name then some v else find? name r

/-- Whether a value says nothing: null, false, zero, or empty. -/
def isBlank : Value → Bool
  | .scalar .null => true
  | .scalar (.bool b) => !b
  | .scalar (.int n) => n = 0
  | .scalar (.float x) => x.toInt? = some 0
  | .scalar (.text t) => t = []
  | .scalar (.bytes b) => b = []
  | .scalar (.stamp _ _) => false
  | .list items => items.isEmpty
  | .map entries => entries.isEmpty
  | .set items => items.isEmpty

/-- What kind of value this is, for a message. -/
def kind : Value → Text
  | .scalar .null => "NoneType".toList
  | .scalar (.bool _) => "bool".toList
  | .scalar (.int _) => "int".toList
  | .scalar (.float _) => "float".toList
  | .scalar (.text _) => "str".toList
  | .scalar (.bytes _) => "bytes".toList
  | .scalar (.stamp _ _) => "date".toList
  | .list _ => "list".toList
  | .map _ => "dict".toList
  | .set _ => "set".toList

end Value

end StyleBuild
