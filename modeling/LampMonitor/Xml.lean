/-! XML documents as the application builds them with pugixml, and the raw format
in which pugixml writes them. -/
namespace LampMonitor

inductive Xml where
  | pcdata (text : String)
  | element (name : String) (attributes : List (String × String)) (children : List Xml)
  deriving Repr

namespace Xml

structure Document where
  declaration : List (String × String)
  root : Xml

/-- `ctx_special_pcdata` and `ctx_special_attr`, apart from control characters. -/
def escapeText (text : String) : String :=
  String.ofList (text.toList.flatMap fun
    | '&' => ['&', 'a', 'm', 'p', ';']
    | '<' => ['&', 'l', 't', ';']
    | '>' => ['&', 'g', 't', ';']
    | c => [c])

def escapeAttribute (text : String) : String :=
  String.ofList (text.toList.flatMap fun
    | '&' => ['&', 'a', 'm', 'p', ';']
    | '<' => ['&', 'l', 't', ';']
    | '"' => ['&', 'q', 'u', 'o', 't', ';']
    | c => [c])

def rawAttributes (attributes : List (String × String)) : String :=
  String.join (attributes.map fun (name, value) => " " ++ name ++ "=\"" ++ escapeAttribute value ++ "\"")

mutual
def raw : Xml → String
  | .pcdata text => escapeText text
  | .element name attributes [] => "<" ++ name ++ rawAttributes attributes ++ "/>"
  | .element name attributes (child :: children) =>
    "<" ++ name ++ rawAttributes attributes ++ ">" ++ raw child ++ rawAll children ++ "</" ++ name ++ ">"

def rawAll : List Xml → String
  | [] => ""
  | child :: children => raw child ++ rawAll children
end

/-- No control character occurs in a text or in a value: pugixml writes these as
numeric references. -/
inductive Printable : Xml → Prop where
  | pcdata : (∀ c ∈ text.toList, 32 ≤ c.toNat) → Printable (.pcdata text)
  | element : (∀ a ∈ attributes, ∀ c ∈ a.2.toList, 32 ≤ c.toNat) → (∀ child ∈ children, Printable child) →
      Printable (.element name attributes children)

structure Document.Printable (document : Document) : Prop where
  declaration : ∀ a ∈ document.declaration, ∀ c ∈ a.2.toList, 32 ≤ c.toNat
  root : Xml.Printable document.root

/-- `save` with `format_raw`. -/
def Document.raw (document : Document) : String :=
  "<?xml" ++ rawAttributes document.declaration ++ "?>" ++ document.root.raw

end Xml
end LampMonitor
