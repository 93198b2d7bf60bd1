import TextAdventure.Data.NameMap
import TextAdventure.Json.Basic

/-!
# Records

A record is an object, or an array of its fields in the order of their declaration.  Members
that no field is named after are skipped whatever they hold.  A field may come once only, and
one that is left out has a default or makes the record unreadable.
-/

set_option autoImplicit false

namespace TextAdventure.Json

variable {α : Type}

structure Record where
  fields : List (String × Json)

namespace Record

/-- The record with the declared fields that a value spells. -/
def ofJson? (declared : List String) : Json → Option Record
  | .array items =>
      if items.length ≤ declared.length then some ⟨declared.zip items⟩ else none
  | .object members => do
      let named ← members.mapM fun (name, value) => name.map (·, value)
      let fields := named.filter fun field => declared.contains field.1
      if (fields.map (·.1)).Nodup then some ⟨fields⟩ else none
  | _ => none

def required (r : Record) (name : String) (decode : Json → Option α) : Option α :=
  (r.fields.lookup name).bind decode

def optional (r : Record) (name : String) (default : α) (decode : Json → Option α) : Option α :=
  match r.fields.lookup name with
  | some value => decode value
  | none => some default

end Record

def text? : Json → Option String
  | .string text? => text?
  | _ => none

def flag? : Json → Option Bool
  | .bool value => some value
  | _ => none

def listOf? (decode : Json → Option α) : Json → Option (List α)
  | .array items => items.mapM decode
  | _ => none

/-- A value that may be absent, spelled `null`. -/
def nullable? (decode : Json → Option α) : Json → Option (Option α)
  | .null => some none
  | value => (decode value).map some

/-- The members of an object in order, repeated names included. -/
def pairsOf? (decode : Json → Option α) : Json → Option (List (String × α))
  | .object members => members.mapM fun (name, value) => do
      let name ← name
      let value ← decode value
      return (name, value)
  | _ => none

/-- The members of an object as a map, in which the last one of a name counts. -/
def mapOf? (decode : Json → Option α) (value : Json) : Option (NameMap α) :=
  (pairsOf? decode value).map NameMap.ofList

def ofMap (encode : α → Json) (m : NameMap α) : Json :=
  members (m.entries.map fun (name, value) => (name, encode value))

end TextAdventure.Json
