import ScriptTree.Uri.Authority
import ScriptTree.Uri.Path

/-! # URIs — names of documents

    An absolute URI has a scheme, perhaps an authority, a path, and perhaps
    a query and a fragment.  Reading an URI normalises it: schemes and
    domains are in lower case, dots in the path are resolved, and what a
    component may not hold is escaped.  `text` writes it down again. -/

namespace ScriptTree

/-- An absolute URI. -/
structure Uri where
  scheme : String
  /-- User information, host and port. -/
  authority : Option String
  path : String
  query : Option String
  fragment : Option String
deriving DecidableEq, Hashable, Repr, Inhabited

namespace Uri

/-- The URI as it is written.  A path that starts with two slashes is kept
    apart from an authority by a dot. -/
def text (u : Uri) : String :=
  let authority := match u.authority with
    | some a => "//" ++ a
    | none => if u.path.startsWith "//" then "/." else ""
  let query := (u.query.map fun q => "?" ++ q).getD ""
  let fragment := (u.fragment.map fun f => "#" ++ f).getD ""
  u.scheme ++ ":" ++ authority ++ u.path ++ query ++ fragment

/-! ## Reading -/

/-- A text without controls and blanks around it. -/
def trim (text : List Char) : List Char :=
  let isOuter := fun c : Char => decide (c.toNat ≤ 0x20)
  ((text.dropWhile isOuter).reverse.dropWhile isOuter).reverse

/-- A text in front of and behind a mark. -/
def cutAt (mark : Char) (text : List Char) : List Char × Option (List Char) :=
  match text.span (· != mark) with
  | (before, []) => (before, none)
  | (before, _ :: behind) => (before, some behind)

/-- Authority and path of a file.  A drive in the place of a host belongs to
    the path; the name `localhost` and a host in front of a drive are left
    out. -/
def fileParts? (body : List Char) : Option (Option String × String) :=
  let own := fun path : List Char => some (some "", (descend true true path).text true)
  match (behindSlash? true body).bind (behindSlash? true) with
  | none => own (dropSlash true body)
  | some rest =>
    let (host, path) := rest.span fun c => !isSlash true c
    let host := unbroken host
    if isDrive host then own rest
    else do
      let host ← if host.isEmpty then some [] else Host.special? host
      if host.isEmpty || host == "localhost".toList then own path
      else
        let found := descend true true (dropSlash true path)
        return (some (if found.startsAtDrive then "" else String.ofList host), found.text true)

/-- Authority and path of an URI with a host behind slashes; `isLast` says
    that nothing follows the text. -/
def hostParts? (scheme : String) (isLast : Bool) (text : List Char) :
    Option (Option String × String) := do
  let special := isSpecial scheme
  let (authority, path) := text.span fun c => !isSlash special c
  let (authority, rest) ← authority? scheme (isLast && path.isEmpty) authority
  let path := rest ++ path
  return (some authority,
    if path.isEmpty && !special then ""
    else (descend special false (dropSlash special path)).text false)

/-- Authority and path of an URI behind its scheme. -/
def parts? (scheme : String) (isLast : Bool) (body : List Char) :
    Option (Option String × String) :=
  if scheme == fileScheme then fileParts? body
  else
    let body := unbroken body
    if isSpecial scheme then hostParts? scheme isLast (body.dropWhile (isSlash true))
    else
      match behindSlash? false body with
      | none => some (none, String.ofList (escape .opaquePath body))
      | some rest =>
        match behindSlash? false rest with
        | none => some (none, (descend false false rest).text false)
        | some rest => hostParts? scheme isLast rest

/-- The scheme in front of the first colon, in lower case, and what follows. -/
def cutScheme? (text : List Char) : Option (String × List Char) :=
  let isPart := fun c : Char => c.isAlphanum || c == '+' || c == '-' || c == '.'
  match cutAt ':' text with
  | (before, some rest) =>
    let scheme := unbroken before
    if scheme.head?.any Char.isAlpha && scheme.all isPart then
      some (String.ofList (scheme.map Char.toLower), rest)
    else none
  | (_, none) => none

/-- The absolute URI a text stands for. -/
def parse? (text : String) : Option Uri := do
  let (scheme, rest) ← cutScheme? (trim text.toList)
  let (rest, fragment) := cutAt '#' rest
  let (body, query) := cutAt '?' rest
  let (authority, path) ← parts? scheme (query.isNone && fragment.isNone) body
  let queryKind : Component := if isSpecial scheme then .specialQuery else .query
  return {
    scheme
    authority
    path
    query := query.map fun q => String.ofList (escape queryKind (unbroken q))
    fragment := fragment.map fun f => String.ofList (escape .fragment (unbroken f)) }

end Uri

end ScriptTree
