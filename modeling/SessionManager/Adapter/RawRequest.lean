import SessionManager.Adapter.Calls

/-!
# Native requests of the debugger

`bind_raw_arguments` of `debugger.py`: a native request goes out with the alias and the session of
its own registration, whatever the caller wrote there.
-/

namespace SessionManager

open Python (Str)

/-- What `bind_raw_arguments` uses of Python's library beyond `Library`. -/
structure RawLibrary extends Library where
  /-- The first match of the pattern for elements of this name: the text before it, the tag it
  captures, and the text after it. -/
  element : String → Str → Option (Str × Str × Str)
  /-- The first match of the pattern for the opening tag of `request`: the text up to its end, the
  tag it captures, and the text after it. -/
  opening : Str → Option (Str × Str × Str)

def Element.tag : Element → Str
  | .node tag _ _ _ _ => tag

def Element.text : Element → Option Str
  | .node _ _ text _ _ => text

def Element.children : Element → List Element
  | .node _ _ _ children _ => children

/-- `d[key] = value` for a string `key`. -/
def Arguments.set (key : String) (value : Python.Value) (args : Arguments) : Arguments :=
  if args.any fun entry => is_key key entry.1 then
    args.map fun entry => if is_key key entry.1 then (entry.1, value) else entry
  else args ++ [(Python.text key, value)]

/-- What `quote` leaves as it is. -/
def unreserved (c : Python.Code) : Bool :=
  (0x30 ≤ c.val && c.val ≤ 0x39) || (0x41 ≤ c.val && c.val ≤ 0x5A) ||
    (0x61 ≤ c.val && c.val ≤ 0x7A) || c.val == 0x5F || c.val == 0x2E || c.val == 0x2D ||
    c.val == 0x7E

def percent (byte : Nat) : Str :=
  Str.of (String.ofList ['%', Char.ofNat (hex (byte / 16)), Char.ofNat (hex (byte % 16))])
where
  hex (digit : Nat) : Nat := if digit < 10 then 0x30 + digit else 0x37 + digit

/-- `quote(value, safe="")` -/
def quote : Python.Value → Except Raised Str
  | .str s =>
    if s.any Python.Code.surrogate then .error .Exception
    else .ok (s.flatMap fun c => if unreserved c then [c] else (utf8 c).flatMap percent)
  | _ => .error .Exception

/-- `xml.sax.saxutils.escape` -/
def xml_escape : Python.Value → Except Raised Str
  | .str s => .ok (s.flatMap fun c =>
      if c.val = 0x26 then Str.of "&amp;" else if c.val = 0x3E then Str.of "&gt;"
      else if c.val = 0x3C then Str.of "&lt;" else [c])
  | _ => .error .Exception

/-- `tag.rsplit("}", 1)[-1]` -/
def local_name (tag : Str) : Str := (tag.reverse.takeWhile fun c => c.val ≠ 0x7D).reverse

/-- The children of an element that have this name. -/
def Element.named (root : Element) (name : String) : List Element :=
  root.children.filter fun child => local_name child.tag = Str.of name

/-- `tag.rsplit(":", 1)[0] + ":"` for a tag with a colon. -/
def qualifier (tag : Str) : Str := (tag.reverse.dropWhile fun c => c.val ≠ 0x3A).reverse

def endswith (s : Str) (ending : String) : Bool := (Str.of ending).isSuffixOf s

/-- `"<" + tag + ">" + content + "</" + tag + ">"` -/
def tagged (tag content : Str) : Str :=
  Str.of "<" ++ tag ++ Str.of ">" ++ content ++ Str.of "</" ++ tag ++ Str.of ">"

/-- The members of `self._binding` that calls use; `infobase_alias` is its `alias`. -/
structure DebugBinding where
  endpoint : Str
  infobase_alias : Str
  password : Option Str
  allowed_target_ids : List Str

variable (library : RawLibrary)

/-- The opening tag of the request; an empty element is given a closing tag first. -/
def open_request (xml : Str) : Except Raised (Str × Str × Str) :=
  match library.opening xml with
  | none => .error .InvalidParams
  | some (opened, tag, rest) =>
    if endswith opened "/>" then
      match library.opening
          (opened.take (opened.length - 2) ++ Str.of "></" ++ tag ++ Str.of ">" ++ rest) with
      | none => .error .Exception
      | some found => .ok found
    else .ok (opened, tag, rest)

/-- The text with one element of this name, which has this value. -/
def bind_element (root : Element) (name : String) (value : Python.Value) (xml : Str) :
    Except Raised Str :=
  match root.named name with
  | [] => do
    let (opened, tag, rest) ← open_request library xml
    return opened ++ tagged (qualifier tag ++ Str.of name) (← xml_escape value) ++ rest
  | [_] =>
    match library.element name xml with
    | none => .error .InvalidParams
    | some (before, tag, rest) => do return before ++ tagged tag (← xml_escape value) ++ rest
  | _ => .error .InvalidParams

/-- The only child of this name has this text. -/
def holds_value (root : Element) (name : String) (value : Python.Value) : Bool :=
  match root.named name with
  | [child] =>
    match child.text with
    | some text => is_str text value
    | none => is_none value
  | _ => false

/-- The native request with the own alias and session, and the mode of measurement it has. -/
def bind_xml (binding : DebugBinding) (session_id : Python.Value) (xml : Str) :
    Except Raised (Str × Option Str) := do
  let len ← encoded_len xml
  if len > 262144 || contains (Str.of "<!DOCTYPE") (library.upper xml) ||
      contains (Str.of "<!ENTITY") (library.upper xml) then throw .InvalidParams
  else
    match library.fromstring xml with
    | none => throw .InvalidParams
    | some root =>
      if local_name root.tag ≠ Str.of "request" then throw .InvalidParams
      else
        let xml ← bind_element library root "infoBaseAlias" (.str binding.infobase_alias) xml
        let xml ← bind_element library root "idOfDebuggerUI" session_id xml
        match library.fromstring xml with
        | none => throw .Exception
        | some verified =>
          if holds_value verified "infoBaseAlias" (.str binding.infobase_alias) &&
              holds_value verified "idOfDebuggerUI" session_id then
            return (xml, (root.named "measureModeSeanceID").head?.bind Element.text)
          else throw .InvalidParams

/-- `bind_raw_arguments(arguments, binding, session_id)` -/
def bind_raw_arguments (binding : DebugBinding) (session_id : Python.Value) (arguments : Arguments) :
    Except Raised (Arguments × Option Str) :=
  match arguments.get "cmd", arguments.get "xml" with
  | some cmd, some (.str xml) => do
    let cmd ← quote cmd
    let clean := (arguments.set "cmd" (.str cmd)).set "dbgui" session_id
    if (strip xml).isEmpty then return (clean, none)
    else
      let (xml, mode) ← bind_xml library binding session_id xml
      return (clean.set "xml" (.str xml), mode)
  | _, _ => .error .Exception

end SessionManager
