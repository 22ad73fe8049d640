import Tracing.Http.HostName
import Tracing.Text.Blank
import Tracing.Text.DecimalDigit
/-!
Addresses of requests. A text is cut into its parts, each part is checked and written in its
normal form, and an address without scheme or host is completed to a path from the root.
-/

set_option autoImplicit false
set_option relaxedAutoImplicit false

namespace Tracing.Http

/-- The parts of an address in their written forms. -/
structure Url where
  scheme : List Char
  userInfo : List Char
  host : List Char
  portNumber : Option Int
  path : List Char
  query : Option (List Char)
  fragment : Option (List Char)

namespace Url

def printableBut (excluded : List Char) (c : Char) : Bool :=
  0x20 < c.toNat && c.toNat < 0x7F && !excluded.contains c

def querySafe : Char → Bool := printableBut ['"', '#', '<', '>']

def pathSafe : Char → Bool := printableBut ['"', '#', '<', '>', '?', '`', '\x7b', '\x7d']

def fragmentSafe : Char → Bool := printableBut ['"', '<', '>', '`']

def userSafe : Char → Bool :=
  printableBut ['"', '#', '<', '>', '?', '`', '\x7b', '\x7d', '/', ';', '=', '@', '[', '\\', ']',
    '^', '|']

def splitScheme (cs : List Char) : List Char × List Char :=
  let run := cs.takeWhile fun c => c.isAlphanum || c = '+' || c = '.' || c = '-'
  match cs.drop run.length with
  | ':' :: rest => if run.isEmpty || run.head?.any Char.isAlpha then (run, rest) else ([], cs)
  | _ => ([], cs)

def splitAuthority : List Char → List Char × List Char
  | '/' :: '/' :: rest =>
    let inside (c : Char) : Bool := c ≠ '/' && c ≠ '?' && c ≠ '#'
    (rest.takeWhile inside, rest.dropWhile inside)
  | cs => ([], cs)

/-- What stands before the last occurrence of a character, and what follows it. -/
def splitLast (mark : Char) (cs : List Char) : Option (List Char × List Char) :=
  let tail := cs.reverse.takeWhile (· ≠ mark)
  if tail.length = cs.length then none
  else some (cs.take (cs.length - tail.length - 1), tail.reverse)

/-- The host and the text behind the colon that ends it. -/
def splitHost (cs : List Char) : List Char × List Char :=
  let (host, rest) :=
    match cs.head?, splitLast ']' cs with
    | some '[', some (inner, rest) => (inner ++ [']'], rest)
    | _, _ => (cs.takeWhile (· ≠ ':'), cs.dropWhile (· ≠ ':'))
  match rest with
  | ':' :: number => (host, number)
  | number => (host, number)

/-- The values of decimal digits of any script with single underscores between them. -/
def digitsOf? : List Char → Option (List Nat)
  | [] => none
  | [d] => (Text.digitValue? d).map ([·])
  | d :: '_' :: rest => do
    let v ← Text.digitValue? d
    return v :: (← digitsOf? rest)
  | d :: rest => do
    let v ← Text.digitValue? d
    return v :: (← digitsOf? rest)

/-- The number that digits write, where they are not too many. -/
def natural? (cs : List Char) : Option Nat := do
  let ds ← digitsOf? cs
  if Json.integerDigitLimit < ds.length then none
  else some (ds.foldl (fun n d => n * 10 + d) 0)

def integer? (cs : List Char) : Option Int :=
  match Text.trim cs with
  | '-' :: rest => (natural? rest).map fun n => -(n : Int)
  | '+' :: rest => (natural? rest).map Int.ofNat
  | rest => (natural? rest).map Int.ofNat

def impliedNumber (scheme : List Char) : Option Int :=
  match String.ofList scheme with
  | "ftp" => some 21
  | "http" => some 80
  | "https" => some 443
  | "ws" => some 80
  | "wss" => some 443
  | _ => none

/-- The number to write behind the host: none where the text is empty or gives the one that the
scheme implies. -/
def portNumber? (scheme text : List Char) : Option (Option Int) :=
  if text.isEmpty then some none
  else (integer? text).map fun n => if impliedNumber scheme = some n then none else some n

/-- Leaves out steps to the same level and pairs of a step down and a step up. -/
def dropDots (path : List Char) : List Char :=
  let parts := splitAt '/' path
  if parts.contains ['.'] || parts.contains ['.', '.'] then
    let kept := parts.foldl (fun done part =>
      if part = ['.'] then done
      else if part = ['.', '.'] then (if done = [] || done = [[]] then done else done.dropLast)
      else done ++ [part]) ([] : List (List Char))
    (kept.intersperse ['/']).flatten
  else path

def pathFits (hasScheme hasAuthority : Bool) (path : List Char) : Bool :=
  if hasAuthority then path.isEmpty || path.head? = some '/'
  else hasScheme || (path.take 2 ≠ ['/', '/'] && path.head? ≠ some ':')

/-- Checks parts and writes them in their normal forms. -/
def ofParts? (scheme authority path : List Char) (query fragment : Option (List Char)) :
    Option Url := do
  let (user, rest) := (splitLast '@' authority).getD ([], authority)
  let (host, number) := splitHost rest
  let host ← hostName? host
  let portNumber ← portNumber? scheme number
  let user := Text.percentEncode userSafe user
  let hasScheme := !scheme.isEmpty
  let hasAuthority := !user.isEmpty || !host.isEmpty || portNumber.isSome
  if !pathFits hasScheme hasAuthority path then none else
  let path := if hasScheme || hasAuthority then dropDots path else path
  return {
    scheme := scheme.map Char.toLower
    userInfo := user
    host
    portNumber
    path := Text.percentEncode pathSafe path
    query := query.map (Text.percentEncode querySafe)
    fragment := fragment.map (Text.percentEncode fragmentSafe) }

def maxLength : Nat := 65536

/-- Reads an address; control characters have no place in one. -/
def parse? (text : List Char) : Option Url :=
  if maxLength < text.length || text.any fun c => c.toNat < 0x20 || c.toNat = 0x7F then none else
  let (scheme, rest) := splitScheme text
  let (authority, rest) := splitAuthority rest
  let path := rest.takeWhile fun c => c ≠ '?' && c ≠ '#'
  let rest := rest.drop path.length
  let (query, rest) :=
    match rest with
    | '?' :: rest => (some (rest.takeWhile (· ≠ '#')), rest.dropWhile (· ≠ '#'))
    | _ => (none, rest)
  let fragment :=
    match rest with
    | '#' :: rest => some rest
    | _ => none
  ofParts? scheme authority path query fragment

def authority (u : Url) : List Char :=
  (if u.userInfo.isEmpty then [] else u.userInfo ++ ['@']) ++
    (if u.host.contains ':' then '[' :: u.host ++ [']'] else u.host) ++
    (match u.portNumber with
      | some n => ':' :: (toString n).toList
      | none => [])

def text (u : Url) : String :=
  String.ofList <|
    (if u.scheme.isEmpty then [] else u.scheme ++ [':']) ++
    (if u.authority.isEmpty then [] else '/' :: '/' :: u.authority) ++ u.path ++
    (match u.query with
      | some q => '?' :: q
      | none => []) ++
    (match u.fragment with
      | some f => '#' :: f
      | none => [])

def isAbsolute (u : Url) : Bool := !u.scheme.isEmpty && !u.host.isEmpty

def partsFit (parts : List (List Char)) : Bool := parts.all fun part => part.length ≤ maxLength

/-- The same address with another query. Its parts are read again, each as a text of its own. -/
def withQuery? (u : Url) (query : Option (List Char)) : Option Url :=
  let given := [u.scheme, u.authority, u.path] ++ query.toList ++ u.fragment.toList
  if partsFit given then ofParts? u.scheme u.authority u.path query u.fragment else none

/-- An address that names no scheme or no host, as a path from the root without a fragment. -/
def fromRoot? (u : Url) : Option Url :=
  if u.isAbsolute then some u else
  let path := if u.path.isEmpty then ['/'] else u.path
  let full := path ++ (match u.query with
    | some q => '?' :: q
    | none => [])
  let merged := '/' :: full.dropWhile (· = '/')
  let path := merged.takeWhile (· ≠ '?')
  let query := if merged.contains '?' then some ((merged.dropWhile (· ≠ '?')).drop 1) else none
  if partsFit (path :: query.toList) then ofParts? [] [] path query none else none

/-- The address of a request: read, and completed to a path from the root where it is relative. -/
def ofText? (text : String) : Option Url := do
  let u ← parse? text.toList
  u.fromRoot?

def withParameters? (u : Url) (name : String) (values : List String) : Option Url :=
  let asked := values.map fun value =>
    Text.formEncode name.toList ++ '=' :: Text.formEncode value.toList
  u.withQuery? (some (List.intercalate ['&'] asked))

def credential (cs : List Char) : List Char := Text.ofBytes (Text.percentDecode cs)

def basicCredentials? (u : Url) : Option String :=
  let user := credential (u.userInfo.takeWhile (· ≠ ':'))
  let password := credential ((u.userInfo.dropWhile (· ≠ ':')).drop 1)
  if user.isEmpty && password.isEmpty then none else
  let bytes := (user ++ ':' :: password).flatMap Text.bytesOf
  some ("Basic " ++ String.ofList (Text.base64 bytes))

end Url

end Tracing.Http
