import AmqpReturns.Broker.Connect
import AmqpReturns.Text.Hex
import AmqpReturns.Text.Utf8

/-!
# Rehearsal — a client's reader

A stand-in for the client library's reader of URIs, for URIs as settings give them in a rehearsal.
The authority ends at the first `/`, `?` or `#`; in it the user's part ends at the last `@` and the
host at the first `:`.  User, password and virtual host are written with percent escapes.  No
result rests on it.
-/

namespace AmqpReturns.Rehearsal.Client

/-- The bytes of a text with percent escapes.  A percent sign that begins no escape stands for
itself. -/
def unescapeBytes : List Char → List UInt8
  | [] => []
  | [a] => Text.Utf8.encodeChar a
  | [a, b] => Text.Utf8.encodeChar a ++ Text.Utf8.encodeChar b
  | a :: b :: c :: rest =>
    if a = '%' then
      match Text.Hex.digit? b, Text.Hex.digit? c with
      | some h, some l => (h * 16 + l).toUInt8 :: unescapeBytes rest
      | _, _ => Text.Utf8.encodeChar a ++ unescapeBytes (b :: c :: rest)
    else Text.Utf8.encodeChar a ++ unescapeBytes (b :: c :: rest)

/-- A text with percent escapes, if its bytes are UTF-8. -/
def unescape? (cs : List Char) : Option String :=
  (Text.Utf8.decode? (unescapeBytes cs)).toOption

/-- The parts before and after the first character that `p` holds of. -/
def splitFirst (p : Char → Bool) (cs : List Char) : List Char × Option (List Char) :=
  let head := cs.takeWhile (!p ·)
  match cs.drop head.length with
  | [] => (head, none)
  | _ :: rest => (head, some rest)

/-- The parts before and after the last `@`. -/
def splitUser (cs : List Char) : Option (List Char) × List Char :=
  match splitFirst (· = '@') cs.reverse with
  | (host, none) => (none, host.reverse)
  | (host, some user) => (some user.reverse, host.reverse)

/-- Characters that no host holds. -/
def isForbidden (c : Char) : Bool :=
  c.toNat = 0 || " \t\n\r<>[]\\^|%@".toList.contains c

/-- The parts before and after the `:` that ends a host.  A host in brackets ends with them. -/
def splitHost? (cs : List Char) : Option (List Char × Option (List Char)) :=
  match cs with
  | '[' :: rest =>
    match splitFirst (· = ']') rest with
    | (_, none) => none
    | (host, some []) => some (host, none)
    | (host, some (':' :: port)) => some (host, some port)
    | (_, some (_ :: _)) => none
  | cs =>
    let (host, port) := splitFirst (· = ':') cs
    if host.isEmpty || host.any isForbidden then none else some (host, port)

/-- A port: a decimal number of 16 bits, 5672 where it is left out. -/
def port? (digits : List Char) : Option Nat :=
  if digits.isEmpty then some 5672
  else if digits.all (fun c => '0' ≤ c ∧ c ≤ '9') then
    let n := digits.foldl (fun n c => n * 10 + (c.toNat - '0'.toNat)) 0
    if n < UInt16.size then some n else none
  else none

/-- A user or password, `guest` where it is left out. -/
def credential? (cs : Option (List Char)) : Option String :=
  match cs with
  | none | some [] => some "guest"
  | some cs => unescape? cs

/-- What follows the scheme of a URI. -/
def afterScheme? (cs : List Char) : Option (List Char) :=
  let scheme := "amqp://".toList
  if scheme.isPrefixOf cs then some (cs.drop scheme.length) else none

/-- The address in a URI. -/
def read? (uri : String) : Option Address := do
  let cs ← afterScheme? uri.toList
  let (authority, _) := splitFirst (fun c => c = '/' || c = '?' || c = '#') cs
  let (userPart, hostPart) := splitUser authority
  let (user, password) := splitFirst (· = ':') (userPart.getD [])
  let (host, port) ← splitHost? hostPart
  let path := (cs.drop authority.length).takeWhile fun c => c != '?' && c != '#'
  return {
    user := ← credential? (some user)
    password := ← credential? password
    host := String.ofList host
    port := ← port? (port.getD [])
    vhost := ← match path with
      | [] => some "/"
      | _ :: path => unescape? path }

end AmqpReturns.Rehearsal.Client
