import GraphRepo.Bolt.Uri

/-!
# Addresses of servers

Where a server is, as a URI: a scheme, a host and the number of a socket there. A text without a
scheme, or without a host after it, is taken for what follows `bolt://`. Some schemes encrypt; their
host has to be one that a certificate can be about.
-/

namespace GraphRepo

/-- Why a text is no address of a server. -/
inductive AddressFault
  | uri (fault : UriFault)
  | unknownScheme (scheme : String)
  | badName (name : String)
  /-- There is no host however the text is read. -/
  | noHost
  deriving DecidableEq, Repr

def AddressFault.message : AddressFault → String
  | .uri fault => "Invalid URI: " ++ fault.message
  | .unknownScheme scheme => "Unsupported URI scheme: " ++ scheme
  | .badName name => "Invalid DNS name: " ++ name
  | .noHost => "called `Option::unwrap()` on a `None` value"

/-- Where a server is. -/
structure Address where
  scheme : String
  host : Host
  socket : Nat
  deriving DecidableEq, Repr

namespace Address

/-- The socket of servers whose address names none. -/
def defaultSocket : Nat := 7687

/-- The schemes of addresses without encryption. -/
def openSchemes : List String := ["bolt", "neo4j"]

def encryptedSchemes : List String := ["bolt+s", "bolt+ssc", "neo4j+s", "neo4j+ssc"]

/-- Whether a text can be a part of a name in a certificate: up to 63 letters, digits, underscores
and hyphens, without a hyphen at an end. -/
def isNamePart (cs : List Char) : Bool :=
  1 ≤ cs.length && cs.length ≤ 63 && cs.all (fun c => c.isAlphanum || c = '_' || c = '-')
    && cs.head? ≠ some '-' && cs.getLast? ≠ some '-'

/-- Whether a text is a name in a certificate: up to 253 characters, of which the last part is more
than a number. -/
def isCertificateName (cs : List Char) : Bool :=
  let parts := Host.parts cs
  cs.length ≤ 253 && !parts.isEmpty && parts.all isNamePart
    && !parts.getLast?.any (·.all Char.isDigit)

/-- Whether a certificate can be about a host. -/
def isCertifiable : Host → Bool
  | .address _ => true
  | .name name => isCertificateName name.toList || Host.isIPv4 name.toList

/-- The URI that a text is, or what follows `bolt://` in one. -/
def uriOf (text : List Char) : Except UriFault (Option Uri) := do
  match ← Uri.parse text with
  | some ⟨scheme, some host, socket⟩ => return some ⟨scheme, some host, socket⟩
  | _ => Uri.parse ("bolt://".toList ++ text)

def ofText (text : String) : Except AddressFault Address := do
  match ← (uriOf text.toList).mapError .uri with
  | some ⟨scheme, host, socket⟩ =>
    let encrypted := encryptedSchemes.contains scheme
    if !(encrypted || openSchemes.contains scheme) then throw (.unknownScheme scheme)
    match host with
    | none => throw .noHost
    | some (.name name) =>
      if encrypted && !isCertifiable (.name name) then throw (.badName name)
      return ⟨scheme, .name name, socket.getD defaultSocket⟩
    | some host => return ⟨scheme, host, socket.getD defaultSocket⟩
  | none => throw .noHost

end Address

end GraphRepo
