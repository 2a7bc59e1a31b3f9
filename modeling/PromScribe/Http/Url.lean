import PromScribe.Http.Host
import PromScribe.Text.Blank
import PromScribe.Text.Bytes
import PromScribe.Text.Digits

/-!
# Addresses

An address names a scheme, a host with its port, a path, and possibly a query and a fragment. Its
text is read with care for what people write: blanks around it, capital letters in the scheme and the
host, dots as steps in the path, and characters that may not stand there.

Characters that may not stand in a part of an address are written as their bytes, each as a percent
sign and two hexadecimal digits. Forms write a space as a plus sign.
-/

namespace PromScribe.Http

open Text

/-- A byte behind a percent sign. -/
def percentByte (byte : Nat) : List Char :=
  '%' :: capitalHexDigits 2 byte

/-- A character as its bytes. -/
def percentChar (c : Char) : List Char :=
  (utf8Bytes c).flatMap percentByte

/-- The text with every character outside of a class as its bytes. -/
def percentEncoded (plain : Char → Bool) (text : List Char) : List Char :=
  text.flatMap fun c => if plain c then [c] else percentChar c

/-- A character that forms write as it is. -/
def isFormPlain (c : Char) : Bool :=
  c.isAlphanum || ['*', '-', '.', '_'].contains c

/-- A character of a form. -/
def formChar (c : Char) : List Char :=
  if c = ' ' then ['+'] else if isFormPlain c then [c] else percentChar c

/-- A text of a form. -/
def formEncoded (text : String) : List Char :=
  text.toList.flatMap formChar

/-- A named value of a form. -/
def formPair (pair : String × String) : List Char :=
  formEncoded pair.1 ++ '=' :: formEncoded pair.2

/-- The named values of a form. -/
def formText (pairs : List (String × String)) : List Char :=
  List.intercalate ['&'] (pairs.map formPair)

/-- An address. What is written before an at sign in front of the host is left out. -/
structure Url where
  scheme : String
  host : String
  /-- Nothing for the usual port of the scheme. -/
  port : Option Nat
  path : List Char
  query : Option (List Char)
  fragment : Option (List Char)
deriving DecidableEq, Repr

/-- Why a text is no address that requests can be sent to. -/
inductive UrlFault where
  /-- It does not begin with a scheme. -/
  | relative
  /-- It names no host, or requests are not sent by its scheme; the address is kept. -/
  | unfit (address : String)
  | host (fault : HostFault)
  | badPort
deriving DecidableEq, Repr

/-- The wording of the fault. -/
def UrlFault.message : UrlFault → String
  | .relative => "relative URL without a base"
  | .unfit _ => "URL scheme is not allowed"
  | .host fault => fault.message
  | .badPort => "invalid port number"

namespace Url

/-- The usual ports of the schemes whose addresses have a host in any case. -/
def usualPorts : List (String × Nat) :=
  [("http", 80), ("https", 443), ("ws", 80), ("wss", 443), ("ftp", 21)]

/-- A control character. -/
def isControl (c : Char) : Bool :=
  c.toNat < 0x20

/-- The text without what is ignored in addresses: blanks at its ends, and breaks anywhere. -/
def tidy (text : List Char) : List Char :=
  (trimBy (fun c => isControl c || c = ' ') text).filter fun c => !(['\t', '\n', '\r'].contains c)

/-- A character that fragments write as it is. -/
def isFragmentPlain (c : Char) : Bool :=
  Host.isVisible c && !(['"', '<', '>', '\x60'].contains c)

/-- A character that paths write as it is. -/
def isPathPlain (c : Char) : Bool :=
  isFragmentPlain c && !(['#', '?', '\x7b', '\x7d'].contains c)

/-- A character that queries write as it is. -/
def isQueryPlain (c : Char) : Bool :=
  Host.isVisible c && !(['"', '#', '<', '>', '\''].contains c)

/-- A character of a scheme. -/
def isSchemeChar (c : Char) : Bool :=
  c.isAlphanum || ['+', '-', '.'].contains c

/-- The scheme in small letters and the text behind its colon. -/
def splitScheme? (text : List Char) : Option (String × List Char) :=
  match text with
  | [] => none
  | c :: _ =>
      match text.dropWhile isSchemeChar with
      | ':' :: rest =>
          if c.isAlpha then
            some (String.ofList ((text.takeWhile isSchemeChar).map Char.toLower), rest)
          else none
      | _ => none

/-- A character that ends the host and its port. -/
def endsAuthority (c : Char) : Bool :=
  ['/', '\\', '?', '#'].contains c

/-- The port that a text writes. -/
def readPort (usual : Option Nat) (text : List Char) : Except UrlFault (Option Nat) :=
  if text.isEmpty then .ok none
  else
    match NumberReader.digits? text with
    | some number =>
        if number < 65536 then .ok (if some number = usual then none else some number)
        else .error .badPort
    | none => .error .badPort

/-- The host, up to the first colon outside of brackets; `inside` says that a bracket is open. -/
def hostRun (inside : Bool) : List Char → List Char
  | [] => []
  | c :: rest =>
      if c = ':' && !inside then []
      else c :: hostRun (if c = '[' then true else if c = ']' then false else inside) rest

/-- The host and the port behind it. -/
def hostAndPort (text : List Char) : List Char × List Char :=
  let host := hostRun false text
  (host, text.drop (host.length + 1))

/-- The text without what stands before an at sign. -/
def withoutUser (text : List Char) : List Char :=
  (text.reverse.takeWhile (· != '@')).reverse

/-- A step of a path that stays where it is. -/
def isHere (step : List Char) : Bool :=
  ["." , "%2e"].contains (String.ofList (step.map Char.toLower))

/-- A step of a path that goes back. -/
def isBack (step : List Char) : Bool :=
  ["..", ".%2e", "%2e.", "%2e%2e"].contains (String.ofList (step.map Char.toLower))

/-- The steps of a path that is walked; `done` holds the steps taken, last first. -/
def walk (done : List (List Char)) : List (List Char) → List (List Char)
  | [] => done.reverse
  | [step] =>
      if isBack step then ([] :: done.drop 1).reverse
      else if isHere step then ([] :: done).reverse
      else (step :: done).reverse
  | step :: rest =>
      if isBack step then walk (done.drop 1) rest
      else if isHere step then walk done rest
      else walk (step :: done) rest

/-- The path that a text writes; it begins with a slash. -/
def pathOf (text : List Char) : List Char :=
  let slashed := text.map fun c => if c = '\\' then '/' else c
  let relative := if slashed.head? = some '/' then slashed.drop 1 else slashed
  '/' :: List.intercalate ['/']
    (walk [] ((partsBetween '/' relative).map (percentEncoded isPathPlain)))

/-- The text behind a part of it and one more character, if there is any. -/
def behind? (whole before : List Char) : Option (List Char) :=
  if before.length < whole.length then some (whole.drop (before.length + 1)) else none

/-- The query and the fragment that a text ends in. -/
def queryAndFragment (text : List Char) : Option (List Char) × Option (List Char) :=
  let main := text.takeWhile (· != '#')
  ((behind? main (main.takeWhile (· != '?'))).map (percentEncoded isQueryPlain),
    (behind? text main).map (percentEncoded isFragmentPlain))

/-- What stands before the query and the fragment of a text. -/
def pathPart (text : List Char) : List Char :=
  text.takeWhile fun c => c != '?' && c != '#'

/-- The part of an address behind the host. -/
def afterHost (scheme host : String) (port : Option Nat) (text : List Char) : Url :=
  let (query, fragment) := queryAndFragment text
  { scheme, host, port, path := pathOf (pathPart text), query, fragment }

/-- The scheme, the host and the port. -/
def origin (url : Url) : List Char :=
  (url.scheme ++ "://" ++ url.host).toList ++
    ((url.port.map fun port => ':' :: (toString port).toList).getD [])

/-- The path and the query. -/
def targetChars (url : Url) : List Char :=
  url.path ++ ((url.query.map ('?' :: ·)).getD [])

/-- What is asked for on the host itself. -/
def target (url : Url) : String :=
  String.ofList url.targetChars

/-- What is asked for on a host in between. -/
def absoluteTarget (url : Url) : String :=
  String.ofList (url.origin ++ url.targetChars)

/-- The whole address. -/
def text (url : Url) : String :=
  String.ofList (url.origin ++ url.targetChars ++
    ((url.fragment.map ('#' :: ·)).getD []))

/-- The scheme of files. -/
def fileScheme : String := "file"

/-- What an address says behind its scheme where it names no host. -/
def hostlessText (scheme : String) (rest : List Char) : List Char :=
  let (query, fragment) := queryAndFragment rest
  let path := pathPart rest
  let written :=
    if scheme = fileScheme then '/' :: '/' :: pathOf path
    else if path.head? = some '/' then pathOf path
    else percentEncoded (fun c => Host.isVisible c || c = ' ') path
  written ++ ((query.map ('?' :: ·)).getD []) ++ ((fragment.map ('#' :: ·)).getD [])

/-- The fault of an address that names no host. -/
def hostless (scheme : String) (rest : List Char) : UrlFault :=
  .unfit (scheme ++ ":" ++ String.ofList (hostlessText scheme rest))

/-- The address whose host stands at the head of a text. -/
def readAuthority (scheme : String) (text : List Char) : Except UrlFault Url := do
  let usual := usualPorts.lookup scheme
  let authority := text.takeWhile fun c => !endsAuthority c
  let (hostText, portText) := hostAndPort (withoutUser authority)
  let host ← (if usual.isSome then Host.read hostText else Host.readOpaque hostText).mapError .host
  let port ← readPort usual portText
  return afterHost scheme host port (text.drop authority.length)

/-- The address that a text writes. -/
def read (text : String) : Except UrlFault Url := do
  match splitScheme? (tidy text.toList) with
  | none => throw .relative
  | some (scheme, rest) =>
      if (usualPorts.lookup scheme).isSome then
        readAuthority scheme (rest.dropWhile fun c => c = '/' || c = '\\')
      else
        match rest with
        | '/' :: '/' :: c :: more =>
            if endsAuthority c then
              throw (hostless scheme (if scheme = fileScheme then c :: more else rest))
            else readAuthority scheme (c :: more)
        | _ => throw (hostless scheme rest)

/-- The schemes that requests are sent by. -/
def requestSchemes : List String := ["http", "https"]

/-- The address, if requests are sent by its scheme. -/
def forRequest (url : Url) : Except UrlFault Url :=
  if requestSchemes.contains url.scheme then .ok url else .error (.unfit url.text)

/-- The address that a text writes, if requests are sent by its scheme. -/
def readForRequest (text : String) : Except UrlFault Url :=
  (read text).bind forRequest

/-- The address with named values behind its query. -/
def withForm (url : Url) (pairs : List (String × String)) : Url :=
  let query :=
    match url.query with
    | none => formText pairs
    | some [] => formText pairs
    | some query => query ++ '&' :: formText pairs
  { url with query := some query }

end Url

end PromScribe.Http
