import Recrawl.Xml.Attribute

/-!
Namespaces: a declaration in a tag binds a name, or the absence of one, to a
namespace for the element and everything inside it.
-/
namespace Recrawl.Xml

inductive Namespace
  | bound (uri : Bytes)
  /-- No namespace. -/
  | none
  /-- The name in front of the colon is not declared. -/
  | undeclared
  deriving DecidableEq, Repr

/-- A declaration: `none` for the namespace of names without a colon. -/
structure Binding where
  name : Option Bytes
  uri : Bytes
  deriving DecidableEq, Repr

/-- The declarations in force, innermost first. -/
abbrev Scope := List Binding

namespace Binding

/-- The two declarations that are always in force. -/
def predefined : Scope :=
  [⟨some (Bytes.ofString "xmlns"), Bytes.ofString xmlnsUri⟩,
    ⟨some (Bytes.ofString "xml"), Bytes.ofString xmlUri⟩]

/-- What the attribute of this name declares, if it is a declaration: a name, or `none` for names
without a colon. -/
def declared? (attr : Bytes) : Option (Option Bytes) :=
  let word := Bytes.ofString "xmlns"
  if attr == word then some Option.none
  else if (word ++ [0x3A]).isPrefixOf attr then some (some (attr.drop 6))
  else Option.none

/-- The declaration of an attribute, if it is one and binds anew. Reserved names and namespaces are
refused. An empty name counts as none. -/
def ofAttribute (attr : Attribute) : Except BindingFault (Option Binding) :=
  let uri := attr.value
  match declared? attr.name with
  | Option.none => .ok Option.none
  | some Option.none => .ok (some ⟨Option.none, uri⟩)
  | some (some name) =>
    if name == Bytes.ofString "xml" then
      if uri == Bytes.ofString xmlUri then .ok Option.none else .error (.xmlName uri)
    else if name == Bytes.ofString "xmlns" then .error (.xmlnsName uri)
    else if uri == Bytes.ofString xmlUri then .error (.xmlUri name)
    else if uri == Bytes.ofString xmlnsUri then .error (.xmlnsUri name)
    else .ok (some ⟨if name.isEmpty then Option.none else some name, uri⟩)

end Binding

namespace Scope

/-- Adds the declarations of the attributes in order. -/
def declare : Scope → List Attribute → Except BindingFault Scope
  | scope, [] => .ok scope
  | scope, attr :: rest =>
    match Binding.ofAttribute attr with
    | .error fault => .error fault
    | .ok Option.none => declare scope rest
    | .ok (some binding) => declare (binding :: scope) rest

def enter (scope : Scope) (tag : Tag) : Except Fault Scope :=
  match declare scope tag.leadingAttributes with
  | .ok inner => .ok inner
  | .error fault => .error (.binding fault)

/-- The namespace of an element's name. An empty namespace takes a declaration back. -/
def resolve (scope : Scope) (name : Bytes) : Namespace :=
  let label := namePart? name
  match scope.find? fun binding => binding.name == label with
  | some binding =>
    if !binding.uri.isEmpty then .bound binding.uri
    else if label.isSome then .undeclared
    else .none
  | Option.none => if label.isSome then .undeclared else .none

end Scope

end Recrawl.Xml
