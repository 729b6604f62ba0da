import ApiPlatform.Url.Address
import ApiPlatform.Url.Domain
import ApiPlatform.Url.Percent
/-!
# URLs

Absolute URLs: a scheme, then a host with a user and a port, or a path alone, then query and
fragment.  Reading follows the rules for URLs on the web: it is lenient about spaces, tabs and
line breaks, and about backslashes and missing slashes after the special schemes, and it brings
hosts and paths into one normal form.
-/

namespace ApiPlatform

inductive UrlHost where
  | name (s : String)
  | ipv4 (address : UInt32)
  | ipv6 (address : Ipv6)
  deriving DecidableEq

/-- Who is asked, and as whom; all texts in written form. -/
structure UrlAuthority where
  username : String := ""
  /-- Absent if it is empty. -/
  password : Option String := none
  host : UrlHost
  /-- Absent if it is the one that the scheme stands for. -/
  port : Option Nat := none
  deriving DecidableEq

/-- An absolute URL; all texts in written form. -/
structure Url where
  scheme : String
  /-- Absent for files and for URLs that are a path alone. -/
  authority : Option UrlAuthority := none
  path : String := ""
  query : Option String := none
  fragment : Option String := none
  deriving DecidableEq

namespace UrlHost

def text : UrlHost → String
  | .name s => s
  | .ipv4 n => Ipv4.text n
  | .ipv6 a => "[" ++ Ipv6.text a ++ "]"

/-- Reads an address in brackets; `cs` starts behind the first one. -/
def ofBrackets (cs : List Char) : Except UrlError UrlHost :=
  if cs.getLast? = some ']' then (Ipv6.parse (String.ofList cs.dropLast)).map .ipv6
  else .error .ipv6

/-- Reads the host of a URL of a special scheme: an address or a domain name. -/
def parse (cs : List Char) : Except UrlError UrlHost :=
  match cs with
  | '[' :: rest => ofBrackets rest
  | cs =>
    match (Bytes.chars? 0 (Percent.decode cs)).bind Domain.toAscii? with
    | none => .error .internationalDomain
    | some domain =>
      let domain := String.ofList domain
      if domain.isEmpty then .error .emptyHost
      else if Ipv4.looksNumeric domain then (Ipv4.parse domain).map .ipv4
      else .ok (.name domain)

/-- The characters that no host may contain. -/
def isForbidden (c : Char) : Bool :=
  ['\x00', '\t', '\n', '\r', ' ', '#', '/', ':', '<', '>', '?', '@', '[', '\\', ']', '^',
    '|'].contains c

/-- Reads the host of a URL of another scheme, which is kept nearly as it is. -/
def parseLoose (cs : List Char) : Except UrlError UrlHost :=
  match cs with
  | '[' :: rest => ofBrackets rest
  | cs =>
    if cs.any isForbidden then .error .domainCharacter
    else .ok (.name (String.ofList (Percent.encode Percent.isControl cs)))

end UrlHost

namespace Url

/-- The port that a special scheme stands for. -/
def defaultPort? (scheme : String) : Option Nat :=
  if scheme = "http" || scheme = "ws" then some 80
  else if scheme = "https" || scheme = "wss" then some 443
  else if scheme = "ftp" then some 21
  else none

def fileScheme : String := "file"

/-- Whether a scheme is one of those that always lead to a host. -/
def isSpecial (scheme : String) : Bool := (defaultPort? scheme).isSome

def endsAuthority (special : Bool) (c : Char) : Bool :=
  c = '/' || c = '?' || c = '#' || (special && c = '\\')

/-- Reads a scheme and the colon behind it, and gives the scheme and what follows. -/
def scheme? (cs : List Char) : Option (String × List Char) :=
  match cs with
  | c :: _ =>
    let name := cs.takeWhile fun c => c.isAlphanum || c = '+' || c = '-' || c = '.'
    match cs.drop name.length with
    | ':' :: rest => if c.isAlpha then some (String.ofList (name.map Char.toLower), rest) else none
    | _ => none
  | [] => none

/-- Splits an authority at its last at sign. -/
def splitUser (cs : List Char) : Option (List Char × List Char) :=
  match cs.reverse.span (· ≠ '@') with
  | (host, '@' :: user) => some (user.reverse, host.reverse)
  | _ => none

/-- The characters of a host, up to a colon outside brackets. -/
def hostChars : Bool → List Char → List Char
  | _, [] => []
  | inside, c :: rest =>
    if c = ':' && !inside then []
    else c :: hostChars (c = '[' || (inside && c ≠ ']')) rest

/-- Reads a port; the one that the scheme stands for is dropped. -/
def port? (scheme : String) (cs : List Char) : Except UrlError (Option Nat) :=
  let n := cs.foldl (fun n c => n * 10 + (c.toNat - '0'.toNat)) 0
  if !cs.all Char.isDigit || 65535 < n then .error .port
  else .ok (if cs.isEmpty || defaultPort? scheme = some n then none else some n)

/-- The written form of a password; an empty one is absent. -/
def password? (cs : List Char) : Option String :=
  if cs.isEmpty then none else some (String.ofList (Percent.encode Percent.inUserInfo cs))

/-- Reads an authority and gives what it leaves over.  `cs` ends where it ends, but for a port
that a backslash cuts off; `more` says whether anything follows.  Only URLs of other than special
schemes may have no host, and then nothing else either. -/
def authority? (scheme : String) (cs : List Char) (more : Bool) :
    Except UrlError (Option UrlAuthority × List Char) := do
  let special := isSpecial scheme
  let (user, place) := (splitUser cs).getD ([], cs)
  if user.isEmpty && place.isEmpty && !cs.isEmpty && more then .error .emptyHost
  else
    let hostText := hostChars false place
    let portText := place.drop hostText.length
    if special && hostText.isEmpty then .error .emptyHost
    else
      let host ← if special then UrlHost.parse hostText else UrlHost.parseLoose hostText
      if hostText.isEmpty && !portText.isEmpty then .error .emptyHost
      else
        let digits := portText.tail.takeWhile (· ≠ '\\')
        let left := portText.tail.drop digits.length
        let port ← port? scheme digits
        let name := user.takeWhile (· ≠ ':')
        let password := password? ((user.drop name.length).tail)
        if hostText.isEmpty then
          if name.isEmpty && password.isNone then .ok (none, left) else .error .emptyHost
        else
          let username := String.ofList (Percent.encode Percent.inUserInfo name)
          .ok (some { username, password, host, port }, left)

/-- Whether a path segment stands for the one above. -/
def isDoubleDot (segment : String) : Bool :=
  ["..", ".%2e", "%2e.", "%2e%2e"].contains (segment.map Char.toLower)

/-- Whether a path segment stands for no step at all. -/
def isSingleDot (segment : String) : Bool := [".", "%2e"].contains (segment.map Char.toLower)

/-- Whether a path segment looks like the letter of a drive, above which no path leads. -/
def isDrive (segment : String) : Bool :=
  match segment.toList with
  | [c, d] => c.isAlpha && (d = ':' || d = '|')
  | _ => false

def shorten (segments : List String) : List String :=
  match segments.getLast? with
  | some last => if isDrive last then segments else segments.dropLast
  | none => []

/-- Walks along the parts of a path from a place that is given by its segments. -/
def walk (segments : List String) : List String → List String
  | [] => segments
  | [part] =>
    if isDoubleDot part then shorten segments ++ [""]
    else if isSingleDot part then segments ++ [""]
    else segments ++ [part]
  | part :: rest =>
    if isDoubleDot part then walk (shorten segments) rest
    else if isSingleDot part then walk segments rest
    else walk (segments ++ [part]) rest

/-- Splits a path at its slashes; `part` holds the current part in reverse. -/
def splitPath (special : Bool) (part : List Char) : List Char → List (List Char)
  | [] => [part.reverse]
  | c :: rest =>
    if c = '/' || (special && c = '\\') then part.reverse :: splitPath special [] rest
    else splitPath special (c :: part) rest

/-- The normal form of the path behind an authority. -/
def pathText (special : Bool) (cs : List Char) : String :=
  match cs with
  | [] => if special then "/" else ""
  | c :: rest =>
    let cs := if c = '/' || (special && c = '\\') then rest else cs
    let parts := (splitPath special [] cs).map fun part =>
      String.ofList (Percent.encode Percent.inPath part)
    String.join ((walk [] parts).map ("/" ++ ·))

/-- Splits a text at the first character of a set and drops that character. -/
def splitFirst (stop : Char) (cs : List Char) : List Char × Option (List Char) :=
  let before := cs.takeWhile (· ≠ stop)
  (before, (cs.drop before.length).tail?)

/-- Adds query and fragment. -/
def withRest (u : Url) (cs : List Char) : Url :=
  let (beforeFragment, fragment) := splitFirst '#' cs
  let (_, query) := splitFirst '?' beforeFragment
  let set :=
    if isSpecial u.scheme || u.scheme = fileScheme then Percent.inSpecialQuery else Percent.inQuery
  { u with
    query := query.map fun q => String.ofList (Percent.encode set q)
    fragment := fragment.map fun f => String.ofList (Percent.encode Percent.inFragment f) }

/-- Reads what follows the two slashes of a URL with an authority. -/
def afterSlashes (scheme : String) (cs : List Char) : Except UrlError Url := do
  let special := isSpecial scheme
  let place := cs.takeWhile fun c => !endsAuthority special c
  let rest := cs.drop place.length
  let (authority, left) ← authority? scheme place (!rest.isEmpty)
  let path := rest.takeWhile fun c => c ≠ '?' && c ≠ '#'
  .ok (withRest { scheme, authority, path := pathText special (left ++ path) }
    (rest.drop path.length))

/-- Reads what follows the scheme of a file.  Its host counts only in that it has to be one. -/
def afterFileScheme (cs : List Char) : Except UrlError Url :=
  let isSlash := fun c : Char => c = '/' || c = '\\'
  match cs with
  | a :: b :: rest =>
    let host := rest.takeWhile fun c => !endsAuthority true c
    if isSlash a && isSlash b && !host.isEmpty && !isDrive (String.ofList host) then
      (UrlHost.parse host).map fun _ => { scheme := fileScheme }
    else .ok { scheme := fileScheme }
  | _ => .ok { scheme := fileScheme }

/-- Reads the characters of a URL without the ones that are ignored. -/
def parseChars (cs : List Char) : Except UrlError Url :=
  match scheme? cs with
  | none => .error .relative
  | some (scheme, rest) =>
    if scheme = fileScheme then afterFileScheme rest
    else if isSpecial scheme then
      afterSlashes scheme (rest.dropWhile fun c => c = '/' || c = '\\')
    else
      match rest with
      | '/' :: '/' :: rest => afterSlashes scheme rest
      | rest => .ok { scheme, path := String.ofList rest }

/-- The text without spaces and control characters at both ends, and without tabs and line
breaks. -/
def cleaned (s : String) : List Char :=
  let isBlank := fun c : Char => c ≤ ' '
  let cs := ((s.toList.dropWhile isBlank).reverse.dropWhile isBlank).reverse
  cs.filter fun c => c ≠ '\t' && c ≠ '\n' && c ≠ '\r'

def parse (s : String) : Except UrlError Url := parseChars (cleaned s)

/-- The part of a URL before the host that says as whom. -/
def userInfo (a : UrlAuthority) : String :=
  let password := (a.password.map (":" ++ ·)).getD ""
  if a.username.isEmpty && password.isEmpty then "" else a.username ++ password ++ "@"

def authorityText (a : UrlAuthority) : String :=
  userInfo a ++ a.host.text ++ ((a.port.map fun p => s!":{p}").getD "")

def text (u : Url) : String :=
  u.scheme ++ ":" ++ ((u.authority.map fun a => "//" ++ authorityText a).getD "") ++ u.path ++
    ((u.query.map ("?" ++ ·)).getD "") ++ ((u.fragment.map ("#" ++ ·)).getD "")

/-- The URL with another user; only a URL with an authority can have one. -/
def withUsername (u : Url) (username : String) : Option Url :=
  u.authority.map fun a =>
    let username := String.ofList (Percent.encode Percent.inUserInfo username.toList)
    { u with authority := some { a with username } }

end Url

end ApiPlatform
