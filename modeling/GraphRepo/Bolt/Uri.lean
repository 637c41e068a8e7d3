import GraphRepo.Bolt.WebHost

/-!
# URIs

The scheme, the host and the number of the socket in a URI. Blanks and controls at its ends are no
part of it, and neither are tabs and ends of lines anywhere. A scheme of the web needs no slashes
before its host and takes backslashes for them.
-/

namespace GraphRepo

/-- The parts of a URI that say where a server is. -/
structure Uri where
  scheme : String
  host : Option Host
  socket : Option Nat
  deriving DecidableEq, Repr

namespace Uri

/-- A text without blanks and controls at its ends, and without tabs and ends of lines. -/
def cleaned (cs : List Char) : List Char :=
  let front := cs.dropWhile (·.toNat ≤ 32)
  (front.reverse.dropWhile (·.toNat ≤ 32)).reverse.filter fun c =>
    c ≠ '\t' && c ≠ '\n' && c ≠ '\r'

/-- The characters of a scheme after its first. -/
def isSchemeChar (c : Char) : Bool := c.isAlphanum || c = '+' || c = '-' || c = '.'

/-- The scheme before the first colon, in lower case, and the text after the colon. -/
def splitScheme : List Char → Option (String × List Char)
  | [] => none
  | c :: rest =>
    if !c.isAlpha then none
    else match rest.dropWhile isSchemeChar with
      | ':' :: after =>
        some (String.ofList ((c :: rest.takeWhile isSchemeChar).map Char.toLower), after)
      | _ => none

def webSchemes : List String := ["http", "https", "ws", "wss", "ftp"]

def isSlash (c : Char) : Bool := c = '/' || c = '\\'

/-- Where the part of a URI ends that names a user, a host and a socket. -/
def endsAuthority (web : Bool) (c : Char) : Bool :=
  c = '/' || c = '?' || c = '#' || (web && c = '\\')

/-- The user before the last `@`, if there is one, and the text behind it. -/
def splitUser (web : Bool) (cs : List Char) : Option (List Char) × List Char :=
  let whole := cs.takeWhile (!endsAuthority web ·)
  if whole.contains '@' then
    let after := (whole.reverse.takeWhile (· ≠ '@')).reverse
    let length := whole.length - after.length
    (some (whole.take (length - 1)), cs.drop length)
  else (none, cs)

/-- The text up to the first colon outside square brackets, or to the end of the authority, and the
rest. -/
def splitHost (web inside : Bool) : List Char → List Char × List Char
  | [] => ([], [])
  | c :: rest =>
    if endsAuthority web c ∨ (c = ':' ∧ !inside) then ([], c :: rest)
    else
      let inside := if c = '[' then true else if c = ']' then false else inside
      let (host, after) := splitHost web inside rest
      (c :: host, after)

/-- Reads the number of a socket behind a colon; without digits there is none. -/
def readSocket : List Char → Except UriFault (Option Nat)
  | ':' :: rest =>
    let (digits, after) := rest.span Char.isDigit
    if after.head?.any (!endsAuthority true ·) then .error .badSocket
    else if digits.isEmpty then .ok none
    else
      let n := Text.Reader.numeral 10 digits
      if n < 65536 then .ok (some n) else .error .badSocket
  | _ => .ok none

/-- Reads what is behind the slashes: perhaps a user, then a host and perhaps a socket. A user needs
a host, and so does a socket; on the web there is always one. -/
def readAuthority (web : Bool) (cs : List Char) :
    Except UriFault (Option Host × Option Nat) := do
  let (user, rest) := splitUser web cs
  if user = some [] ∧ rest.head?.any (endsAuthority web) then throw .emptyHost
  let (text, after) := splitHost web false rest
  if text.isEmpty then
    if web ∨ after.head? = some ':' ∨ !(user = none ∨ user = some [] ∨ user = some [':']) then
      throw .emptyHost
    return (none, none)
  let host ← if web then Host.ofWeb text else Host.plain text
  return (some host, ← readSocket after)

def isDrive : List Char → Bool
  | [c, d] => c.isAlpha && (d = ':' || d = '|')
  | _ => false

def withPoints : List Char → List Char
  | '%' :: '2' :: 'e' :: rest => '.' :: withPoints rest
  | '%' :: '2' :: 'E' :: rest => '.' :: withPoints rest
  | c :: rest => c :: withPoints rest
  | [] => []

/-- Whether a path, of which `depth` segments have been read, starts at a drive. -/
def startsAtDrive (depth : Nat) : List (List Char) → Bool
  | [] => false
  | segment :: rest =>
    if withPoints segment = ['.'] then startsAtDrive depth rest
    else if withPoints segment = ['.', '.'] then startsAtDrive (depth - 1) rest
    else (depth = 0 && isDrive segment) || startsAtDrive (depth + 1) rest

/-- Reads the host of a file: none for files here or on a drive. -/
def readFileHost : List Char → Except UriFault (Option Host)
  | a :: b :: rest =>
    let (text, path) := rest.span (!endsAuthority true ·)
    if !(isSlash a && isSlash b) ∨ text.isEmpty ∨ isDrive text then .ok none
    else do
      let host ← Host.ofWeb text
      let path := path.takeWhile fun c => c ≠ '?' && c ≠ '#'
      let segments := (path.drop 1).splitOnP isSlash
      return if host = .name "localhost" ∨ startsAtDrive 0 segments then none else some host
  | _ => .ok none

/-- Reads a URI; a text without a scheme is none. -/
def parse (cs : List Char) : Except UriFault (Option Uri) := do
  match splitScheme (cleaned cs) with
  | none => return none
  | some (scheme, after) =>
    let (host, socket) ←
      if scheme = "file" then return some ⟨scheme, ← readFileHost after, none⟩
      else if webSchemes.contains scheme then readAuthority true (after.dropWhile isSlash)
      else match after with
        | '/' :: '/' :: rest => readAuthority false rest
        | _ => pure (none, none)
    return some ⟨scheme, host, socket⟩

end Uri

end GraphRepo
