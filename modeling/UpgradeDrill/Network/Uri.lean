/-!
# Endpoint addresses

Whether a text is an address that a connection can be opened to: an optional scheme, an authority,
and after a scheme a path and a query. The text is taken byte by byte.
-/

namespace UpgradeDrill.Uri

def isSchemeChar (c : Char) : Bool := c.isAlphanum || "+-.~".toList.contains c

/-- A scheme, which may be empty, and what follows it and `://`. Nothing but `://` has no scheme. -/
def scheme? (text : List Char) : Option (List Char × List Char) :=
  match text.dropWhile isSchemeChar with
  | ':' :: '/' :: '/' :: rest =>
    if text.length ≤ 3 then none else some (text.takeWhile isSchemeChar, rest)
  | _ => none

def isAuthorityChar (c : Char) : Bool := c.isAlphanum || "!$&'()*+,-.:;=@[]_~%".toList.contains c

def endsAuthority (c : Char) : Bool := c == '/' || c == '?' || c == '#'

def isPathChar (c : Char) : Bool :=
  let n := c.toNat
  n == 0x21 || (0x24 ≤ n && n ≤ 0x3b) || n == 0x3d || (0x40 ≤ n && n ≤ 0x5f) ||
    (0x61 ≤ n && n ≤ 0x7a) || n == 0x7c || n == 0x7e || 0x80 ≤ n ||
    c == '"' || c == '\x7b' || c == '\x7d'

def isQueryChar (c : Char) : Bool :=
  let n := c.toNat
  n == 0x21 || (0x24 ≤ n && n ≤ 0x3b) || n == 0x3d || (0x3f ≤ n && n ≠ 0x7f)

/-- What has been seen of an authority. -/
structure Authority where
  colons : Nat
  opened : Bool
  closed : Bool
  percent : Bool
  /-- Whether the last character was an `@`. -/
  endsAt : Bool

def Authority.read? (seen : Authority) (c : Char) : Option Authority :=
  let seen := { seen with endsAt := c == '@' }
  if !isAuthorityChar c then none
  else if c == ':' then
    if 8 ≤ seen.colons then none else some { seen with colons := seen.colons + 1 }
  else if c == '[' then
    if seen.percent || seen.opened then none else some { seen with opened := true }
  else if c == ']' then
    if !seen.opened || seen.closed then none
    else some { seen with closed := true, colons := 0, percent := false }
  else if c == '@' then some { seen with colons := 0, percent := false }
  else if c == '%' then some { seen with percent := true }
  else some seen

def isAuthority (text : List Char) : Bool :=
  match text.foldlM Authority.read? ⟨0, false, false, false, false⟩ with
  | none => false
  | some seen => seen.opened == seen.closed && seen.colons ≤ 1 && !seen.endsAt && !seen.percent

/-- Whether a text is a path and a query. A fragment may follow, and is not looked at. -/
def isPathAndQuery (text : List Char) : Bool :=
  let path := text.takeWhile fun c => c != '?' && c != '#'
  let rest := text.dropWhile fun c => c != '?' && c != '#'
  path.all isPathChar &&
    match rest with
    | '?' :: query => (query.takeWhile (· != '#')).all isQueryChar
    | _ => true

/-- Whether a text begins with an authority, and what follows it. -/
def splitAuthority (text : List Char) : Bool × List Char :=
  let authority := text.takeWhile (!endsAuthority ·)
  (!authority.isEmpty && isAuthority authority, text.dropWhile (!endsAuthority ·))

def isValid (address : String) : Bool :=
  let text := address.toList
  if address.utf8ByteSize > 65534 then false
  else
    match text with
    | [] => false
    | ['*'] => true
    | '/' :: _ => isPathAndQuery text
    | _ =>
      match scheme? text with
      | some (scheme, body) =>
        let (valid, rest) := splitAuthority body
        scheme.length ≤ 64 && valid && isPathAndQuery rest
      | none =>
        let (valid, rest) := splitAuthority text
        valid && rest.isEmpty

end UpgradeDrill.Uri
