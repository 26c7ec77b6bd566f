import Mathlib.Logic.Basic

/-!
# JSON values

Values as a parser of JSON builds them: a tree without sharing.  The numbers `N`
are a parameter.  An object is the list of its entries in order; of entries with
the same name the first is the one that is read.

A path names a place in a value, by the steps from the value down to it.
-/

/-- Values of JSON, over any type of numbers. -/
inductive Json (N : Type) where
  | null
  | bool (b : Bool)
  | number (x : N)
  | string (text : String)
  | array (items : List (Json N))
  | object (fields : List (String × Json N))

namespace Json

variable {N : Type}

/-- What is told apart by `typeof`, `=== null` and `Array.isArray`. -/
inductive Kind where
  | null
  | bool
  | number
  | string
  | array
  | object
  deriving DecidableEq

/-- What a value is, without its contents. -/
def kind : Json N → Kind
  | null => .null
  | bool _ => .bool
  | number _ => .number
  | string _ => .string
  | array _ => .array
  | object _ => .object

/-- The value has places inside. -/
def isContainer : Json N → Bool
  | array _ => true
  | object _ => true
  | _ => false

/-- The value is neither a container nor a text. -/
def isPlain : Json N → Bool
  | null => true
  | bool _ => true
  | number _ => true
  | _ => false

/-- The names of an object's entries. -/
def keys : Json N → List String
  | object fields => fields.map Prod.fst
  | _ => []

/-- The number of items of an array. -/
def length : Json N → Nat
  | array items => items.length
  | _ => 0

/-- Induction on a value, with one case for all that have no places inside. -/
@[elab_as_elim]
theorem induction {motive : Json N → Prop} (value : Json N)
    (leaf : ∀ value, value.isContainer = false → motive value)
    (array : ∀ items, (∀ item ∈ items, motive item) → motive (.array items))
    (object : ∀ fields, (∀ field ∈ fields, motive field.2) → motive (.object fields)) :
    motive value := by
  refine @Json.rec N motive (fun items => ∀ item ∈ items, motive item)
    (fun fields => ∀ field ∈ fields, motive field.2) (fun field => motive field.2) (leaf _ rfl)
    (fun _ => leaf _ rfl) (fun _ => leaf _ rfl) (fun _ => leaf _ rfl) array object
    ?nil ?cons ?none ?more ?entry value
  case nil =>
    intro item hitem
    cases hitem
  case cons =>
    intro head tail hhead htail item hitem
    cases hitem with
    | head => exact hhead
    | tail _ hmem => exact htail item hmem
  case none =>
    intro field hfield
    cases hfield
  case more =>
    intro head tail hhead htail field hfield
    cases hfield with
    | head => exact hhead
    | tail _ hmem => exact htail field hmem
  case entry =>
    intro name value hvalue
    exact hvalue

/-! ## Paths -/

/-- One step into a value. -/
inductive Step where
  | key (name : String)
  | index (i : Nat)
  deriving DecidableEq

/-- The value one step further down. -/
def child : Json N → Step → Option (Json N)
  | object fields, .key name => fields.lookup name
  | array items, .index i => items[i]?
  | _, _ => none

/-- The value at a path. -/
def get? (value : Json N) : List Step → Option (Json N)
  | [] => some value
  | step :: path => (value.child step).bind fun inner => inner.get? path

@[simp] theorem get?_nil (value : Json N) : value.get? [] = some value := rfl

theorem get?_cons (value : Json N) (step : Step) (path : List Step) :
    value.get? (step :: path) = (value.child step).bind fun inner => inner.get? path := rfl

theorem child_eq_none {value : Json N} (h : value.isContainer = false) (step : Step) :
    value.child step = none := by
  cases value with
  | array _ => cases h
  | object _ => cases h
  | _ => rfl

end Json
