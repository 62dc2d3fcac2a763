import CallGuard.Value.Members
import CallGuard.Value.Written

/-! Attributes of values. A checked function shows its signature, its implementation and its name, and
    the metadata of its implementation as if it were its own; where the implementation has no module or
    documentation, those of all checked functions stand in. A bound function shows what its function
    shows. Reading a checked function through an object of a class that holds it binds it to the object,
    reading it through the class does not. -/

namespace CallGuard

/-- Why an attribute cannot be read or changed. -/
inductive AttributeFault
  | missing (typeName name : String)
  | missingInClass (className name : String)
  | missingInModule (module name : String)
  | noMember (name : String)
  | immutable (function : Value)

/-- The wording of a fault. -/
def AttributeFault.message : AttributeFault → String
  | missing typeName name => "'" ++ typeName ++ "' object has no attribute '" ++ name ++ "'"
  | missingInClass className name => "type object '" ++ className ++ "' has no attribute '" ++ name ++ "'"
  | missingInModule module name => "module '" ++ module ++ "' has no attribute '" ++ name ++ "'"
  | noMember name => name
  | immutable function => "Checked function " ++ function.written ++ " is immutable"

namespace Checked

/-- The module that checked functions come from. -/
def homeModule : String := "deodorant.checking.wrapper"

/-- The documentation of checked functions. -/
def homeDoc : String :=
  "A function whose calls are checked against a signature.\n\n    "
    ++ "Checked functions are immutable: the signature, the implementation and\n    "
    ++ "the display name are fixed at creation. They are created with `wrap`,\n    "
    ++ "`typed` or `wrap_module`, not directly.\n\n    Parameters\n    ----------\n    "
    ++ "signature\n        the parsed signature, the last tag is the return tag\n    "
    ++ "implementation\n        the function called once the arguments are checked\n    "
    ++ "name\n        the name used in error messages\n    "

/-- The metadata that a checked function shows: its own, and where it has no module or documentation,
    those of all checked functions. -/
def shownMetadata (c : Checked Value) : Metadata Value :=
  { c.metadata with
    module := some (c.metadata.module.getD (.ofString homeModule))
    doc := some (c.metadata.doc.getD (.ofString homeDoc)) }

end Checked

namespace Metadata

/-- The attribute with a name. -/
def find? {α : Type} (m : Metadata α) : String → Option α
  | "__module__" => m.module
  | "__name__" => m.name
  | "__qualname__" => m.qualname
  | "__doc__" => m.doc
  | _ => none

/-- The attributes that a look-up by name finds, before those of other metadata. -/
def ofLookUp {α : Type} (find : String → Option α) (m : Metadata α) : Metadata α :=
  ⟨find "__module__" <|> m.module, find "__name__" <|> m.name, find "__qualname__" <|> m.qualname,
    find "__doc__" <|> m.doc⟩

end Metadata

namespace Value

/-- A value that a class holds, as it is read through the class. -/
def fromClass (v : Value) : Value :=
  match v with
  | .stock i s => if s.name = "staticmethod" then .stock 0 (Stock.function "len") else .stock i s
  | v => v

/-- Whether a value that a class holds is bound to an object that it is read through. -/
def isBound (v : Value) : Bool :=
  match v with
  | .checked .. => true
  | .stock _ s => s.typeName == "function"
  | _ => false

/-- A function bound to a value, which then comes in front of the arguments. Only to nothing is it not bound. -/
def boundTo (v self : Value) : Value :=
  match self with
  | .null => v
  | self => .method 0 v self

/-- A value that a class holds, as it is read through an object of the class. -/
def readThrough (self v : Value) : Value := if v.isBound then v.boundTo self else v.fromClass

/-- The metadata of a value. A class has a name and a module, and shows, like its objects, which
    documentation it is given. -/
def metadata : Value → Metadata Value
  | .routine _ r => r.metadata
  | .checked _ c => c.shownMetadata
  | .method _ function _ => metadata function
  | .stock _ s => s.metadata
  | .ownClass _ name attributes =>
    .ofLookUp (fun n => if n = "__name__" ∨ n = "__qualname__" then none else attributes.lookup n)
      ⟨some (.ofString Stock.mainModule), some (.ofString name), some (.ofString name), some .null⟩
  | .object i (.ownClass j name attributes) =>
    .ofLookUp (fun n => (attributes.lookup n).map (readThrough (.object i (.ownClass j name attributes))))
      ⟨some (.ofString Stock.mainModule), none, none, some .null⟩
  | .custom .. => { Metadata.empty with doc := some .null }
  | _ => .empty

/-- The attributes that are there, with their names. -/
def namedMetadata (m : Metadata Value) : List (String × Value) :=
  [("__module__", m.module), ("__name__", m.name), ("__qualname__", m.qualname), ("__doc__", m.doc)].filterMap
    fun e => e.2.map fun v => (e.1, v)

/-- The signature of a checked function as an object. Its identity follows that of the function. -/
def signatureOf (id : ObjectId) (s : Signature) : Value := .sequence (id + 1) .tuple (s.tags.map .tag)

/-- What a checked function keeps, by name. -/
def keptAttributes (id : ObjectId) (c : Checked Value) : List (String × Value) :=
  [("signature", signatureOf id c.signature), ("implementation", c.implementation), ("name", c.name)]
    ++ namedMetadata c.metadata ++ [("__wrapped__", c.implementation)]

/-- Attributes by name as a mapping. -/
def ofAttributes (es : List (String × Value)) : Value := .mapping 0 .plain (es.map fun e => (.ofString e.1, e.2))

/-- An attribute that a checked function has besides its metadata. -/
def checkedAttribute? (id : ObjectId) (c : Checked Value) : String → Option Value
  | "__dict__" => some (ofAttributes (keptAttributes id c))
  | "signature" => some (signatureOf id c.signature)
  | "implementation" => some c.implementation
  | "__wrapped__" => some c.implementation
  | "name" => some c.name
  | "argument_tags" => some (.tuple (c.signature.arguments.map .tag))
  | "return_tag" => some (.tag c.signature.result)
  | "arity" => some (.ofInt c.signature.arity)
  | _ => none

/-- What every object of a class of its own has: attributes of its own, of which there are none. -/
def ownAttributes : List (String × Value) := [("__dict__", ofAttributes [])]

/-- What is said of an attribute that a value does not have. -/
def withoutAttribute (name : String) (v : Value) : AttributeFault :=
  match v with
  | .ownClass _ className _ => .missingInClass className name
  | .stock _ s =>
    if s.name = Stock.tagClass then .noMember name
    else if s.isClass then .missingInClass s.ownName name
    else if s.name = "module" then .missingInModule "math" name
    else .missing s.fullTypeName name
  | v => .missing v.fullTypeName name

/-- The attribute of a value with a name. What is made for the reader has no identity yet. -/
def readAttribute (name : String) : Value → Except AttributeFault Value
  | .checked id c =>
    (checkedAttribute? id c name <|> c.shownMetadata.find? name).elim
      (.error (withoutAttribute name (.checked id c))) .ok
  | .method _ function self =>
    match name with
    | "__self__" => .ok self
    | "__func__" => .ok function
    | _ => readAttribute name function
  | .ownClass id className attributes =>
    let v := Value.ownClass id className attributes
    (v.metadata.find? name <|> (attributes.lookup name).map fromClass).elim
      (.error (withoutAttribute name v)) .ok
  | .object id (.ownClass i className attributes) =>
    let v := Value.object id (.ownClass i className attributes)
    (v.metadata.find? name <|> (attributes.lookup name).map (readThrough v) <|> ownAttributes.lookup name).elim
      (.error (withoutAttribute name v)) .ok
  | v => (v.members.lookup name <|> v.metadata.find? name).elim (.error (withoutAttribute name v)) .ok

/-- Assigning or deleting an attribute. Checked functions refuse both, whatever the attribute. -/
def change (name : String) : Value → AttributeFault
  | .checked _ c => .immutable c.name
  | v => withoutAttribute name v

end Value
end CallGuard
