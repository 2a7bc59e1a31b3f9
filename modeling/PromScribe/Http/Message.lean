import PromScribe.Text.Literal

/-!
# Requests and responses

Messages of the hypertext protocol as far as programs look at them.
-/

namespace PromScribe.Http

open Text

/-- A request. Header names are in small letters. -/
structure Request where
  method : String
  target : String
  headers : List (String × String)
  body : String
deriving DecidableEq, Repr

/-- A response. -/
structure Response where
  status : Nat
  headers : List (String × String)
  body : String
deriving DecidableEq, Repr

/-- The name of the header that tells the kind of a body. -/
def contentType : String := "content-type"

/-- The kind of a body that is a structured value. -/
def jsonType : String := "application/json"

/-- The target without its scheme and authority. -/
def originForm (target : List Char) : List Char :=
  match splitAtFirst? ':' target with
  | some (scheme, '/' :: '/' :: rest) =>
      if scheme.all Char.isAlphanum then rest.dropWhile fun c => !(['/', '?', '#'].contains c)
      else target
  | _ => target

/-- The path of a target, without the query. -/
def pathOf (target : String) : String :=
  match (originForm target.toList).takeWhile fun c => !(['?', '#'].contains c) with
  | [] => "/"
  | path => String.ofList path

/-- A character of a token. -/
def isTokenChar (c : Char) : Bool :=
  c.isAlphanum || "!#$%&'*+-.^_\x60|~".toList.contains c

/-!
## Media types

A media type names a kind of content as `type/subtype`, the subtype possibly with a suffix behind a
plus sign, and may have parameters. Letters count alike in either case.
-/

/-- A media type without its parameters, in small letters. -/
structure MediaType where
  main : List Char
  sub : List Char
  suffix : Option (List Char)
deriving DecidableEq, Repr

namespace MediaType

/-- The text in small ASCII letters. -/
def small (text : List Char) : List Char :=
  text.map Char.toLower

/-- A character of a quoted parameter value. -/
def isQuotedChar (c : Char) : Bool :=
  31 < c.toNat && c.toNat != 127

/-- What stands behind a quoted value whose opening quote has been read. -/
def afterQuoted? : List Char → Option (List Char)
  | [] => none
  | '"' :: rest => some rest
  | '\\' :: c :: rest => if isQuotedChar c then afterQuoted? rest else none
  | c :: rest => if isQuotedChar c && c != '\\' then afterQuoted? rest else none

/-- What stands behind one parameter and the semicolon after it. -/
def afterParameter? (text : List Char) : Option (List Char) :=
  let name := text.takeWhile isTokenChar
  match text.drop name.length with
  | '=' :: value =>
      let rest? :=
        match value with
        | '"' :: quoted => afterQuoted? quoted
        | _ =>
            let plain := value.takeWhile isTokenChar
            if plain.isEmpty then none else some (value.drop plain.length)
      match name.isEmpty, rest? with
      | false, some [] => some []
      | false, some (';' :: rest) => some rest
      | _, _ => none
  | _ => none

/-- The text is a row of parameters; `fuel` bounds their count. -/
def parametersHold : Nat → List Char → Bool
  | 0, _ => false
  | fuel + 1, text =>
      match text.dropWhile (· == ' ') with
      | [] => true
      | c :: rest => (afterParameter? (c :: rest)).any (parametersHold fuel)

/-- Takes a subtype apart at its last plus sign. -/
def splitSuffix (sub : List Char) : List Char × Option (List Char) :=
  let suffix := (sub.reverse.takeWhile (· != '+')).reverse
  let main := sub.take (sub.length - suffix.length - 1)
  if suffix.length = sub.length || main.isEmpty then (sub, none) else (main, some suffix)

/-- The media type that a text names. -/
def read? (text : String) : Option MediaType := do
  let (main, rest) ← splitAtFirst? '/' text.toList
  let sub := rest.takeWhile (· != ';')
  let parameters := (rest.drop sub.length).drop 1
  if main.isEmpty || sub.isEmpty || !(main ++ sub).all isTokenChar ||
      !parametersHold (parameters.length + 1) parameters then
    none
  else
    let (name, suffix) := splitSuffix (small sub)
    return ⟨small main, name, suffix⟩

/-- The content is a structured value. -/
def isJson (kind : MediaType) : Bool :=
  kind.main == "application".toList &&
    (kind.sub == "json".toList || kind.suffix == some "json".toList)

end MediaType

end PromScribe.Http
