/-! The pairs and sections of a TOML document; repeated keys are kept side by side. -/
namespace UpperEcho.Toml

inductive TomlValue where
  | string (s : String)
  | integer (n : Int)
  | float
  | boolean (b : Bool)
  | datetime
  | array
  | inlineTable
  deriving DecidableEq, Repr

inductive Item where
  | value (v : TomlValue)
  | dotted (pairs : List (String × Item))

abbrev Pairs := List (String × Item)

def firstUnder (ps : Pairs) (k : String) : Option Item :=
  (ps.find? fun p => p.1 == k).map Prod.snd

def setFirst (k : String) (i : Item) : Pairs → Pairs
  | [] => []
  | p :: rest => if p.1 == k then (k, i) :: rest else p :: setFirst k i rest

def insertDotted : List String → TomlValue → Pairs → Option Pairs
  | [], _, _ => none
  | [k], v, ps => some (ps ++ [(k, .value v)])
  | k :: ks, v, ps =>
    match firstUnder ps k with
    | some (.dotted sub) => (insertDotted ks v sub).map fun sub' => setFirst k (.dotted sub') ps
    | some (.value _) => none
    | none => (insertDotted ks v []).map fun sub => ps ++ [(k, .dotted sub)]

structure Section where
  path : List String
  isArray : Bool
  pairs : Pairs

theorem insertDotted_single (k : String) (v : TomlValue) (ps : Pairs) :
    insertDotted [k] v ps = some (ps ++ [(k, .value v)]) := rfl

theorem setFirst_length (k : String) (i : Item) (ps : Pairs) :
    (setFirst k i ps).length = ps.length := by
  induction ps with
  | nil => rfl
  | cons p rest ih =>
    simp only [setFirst]
    split <;> simp [ih]

end UpperEcho.Toml
