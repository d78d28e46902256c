import ScriptTree.Uri.Host

/-! # Authorities — user, host and port

    An authority names a machine, perhaps with a user in front of it and a
    port behind it.  Written, it leaves out what says nothing: an empty
    password, an empty user, the port that the scheme has anyway.

    Some schemes have rules of their own: their URIs need a host, take a
    backslash for a slash, and leave the port of the scheme out. -/

namespace ScriptTree.Uri

/-- The schemes with rules of their own, with the port each leaves out. -/
def specialSchemes : List (String × Option Nat) :=
  [("http", some 80), ("https", some 443), ("ws", some 80), ("wss", some 443),
    ("ftp", some 21), ("file", none)]

/-- The scheme has rules of its own. -/
def isSpecial (scheme : String) : Bool := specialSchemes.any fun s => s.1 == scheme

/-- The port a scheme leaves out. -/
def defaultPort? (scheme : String) : Option Nat := (specialSchemes.lookup scheme).join

/-- The scheme of files. -/
def fileScheme : String := "file"

/-- User information as it is written, with its mark; an empty password is
    left out. -/
def userInformation (text : List Char) : List Char :=
  let (user, rest) := text.span (· != ':')
  let password := rest.drop 1
  let written := escape .userInformation user
    ++ (if password.isEmpty then [] else ':' :: escape .userInformation password)
  if written.isEmpty then [] else written ++ ['@']

/-- The text in front of and behind its last at sign. -/
def cutUser (text : List Char) : Option (List Char) × List Char :=
  let (behind, upTo) := text.reverse.span (· != '@')
  match upTo with
  | [] => (none, text)
  | _ :: before => (some before.reverse, behind.reverse)

/-- The text up to the colon in front of the port; colons in brackets are
    part of the host. -/
def cutPort (inBrackets : Bool) (seen : List Char) :
    List Char → List Char × Option (List Char)
  | [] => (seen.reverse, none)
  | c :: rest =>
    if c == ':' && !inBrackets then (seen.reverse, some rest)
    else cutPort (if c == '[' then true else if c == ']' then false else inBrackets)
      (c :: seen) rest

/-- A port as it is written, nothing for the one the scheme leaves out, and
    what a backslash parts from it; `none` if the text is no port. -/
def port? (scheme : String) (text : List Char) : Option (List Char × List Char) :=
  let (digits, rest) := text.span Host.isDecimal
  let port := Host.valueOf 10 digits
  if port > 65535 || rest.head?.any (· != '\\') then none
  else if digits.isEmpty || defaultPort? scheme == some port then some ([], rest)
  else some (':' :: Host.digitsOf 10 port, rest)

/-- An authority as it is written, and what a backslash parts from its port;
    `none` if the text is none.  Without a host there is no port and no user;
    an at sign alone is an authority only at the end of an URI. -/
def authority? (scheme : String) (isLast : Bool) (text : List Char) :
    Option (String × List Char) := do
  let (user, rest) := cutUser text
  let (host, port) := cutPort false [] rest
  let written := (user.map userInformation).getD []
  if host.isEmpty && (isSpecial scheme || port.isSome || !written.isEmpty
      || (user == some [] && !isLast)) then none
  else
    let host ← if isSpecial scheme then Host.special? host else Host.general? host
    let (port, rest) ← port? scheme (port.getD [])
    return (String.ofList (written ++ host ++ port), rest)

end ScriptTree.Uri
