import InfraObserver.Domain.Records

/-!
# Outgoing requests

A request that leaves the process is built from a URL that comes out of the
secret store. Parsing and rendering of URLs are those of Go's library; of them
the model assumes that a URL whose path and query were changed still points to
the same place when it is read again.
-/

namespace InfraObserver

/-- The parts of a `url.URL` that the code reads or copies. -/
structure URL where
  scheme : String
  user : String
  host : String
  path : String
  rawQuery : String
  fragment : String
  deriving DecidableEq

/-- The schemes that requests may use. -/
def URL.web (url : URL) : Bool :=
  (url.scheme = "http" || url.scheme = "https") && url.host ≠ ""

/-- Library functions on URLs and JSON texts. -/
class Wire where
  parseURL : String → Option URL
  parseFailure : String → String
  renderURL : URL → String
  /-- Reading a rendered URL gives back its scheme and host, whatever path and
  query were put into it. -/
  points : ∀ text base path rawQuery read, parseURL text = some base → base.web = true →
    parseURL (renderURL { base with path, rawQuery }) = some read →
      read.scheme = base.scheme ∧ read.host = base.host
  /-- `json.Marshal` of a map of texts. -/
  encodeFields : StringMap String → String
  /-- `json.Unmarshal` into a text, when the JSON value is a text. -/
  decodeString : String → Option String

/-- A `http.Request` as it is handed to the client. -/
structure OutgoingRequest where
  method : String
  url : URL
  headers : StringMap String
  body : Option String
  deriving DecidableEq

/-- `removeEmptyPort`: the colon at the end of a host stands for no port. -/
def removeEmptyPort (host : String) : String :=
  match host.toList.reverse with
  | ':' :: rest => String.ofList rest.reverse
  | _ => host

/-- `http.NewRequestWithContext` for one of the methods that the code uses. -/
def newRequest [Wire] (method target : String) (body : Option String) :
    Except Error OutgoingRequest :=
  match Wire.parseURL target with
  | none => .error ⟨.permanent, Wire.parseFailure target⟩
  | some url =>
      .ok { method, body
            url := { url with host := removeEmptyPort url.host }
            headers := ∅ }

/-! ## Web addresses -/

/-- The characters that end the host. -/
def URL.endsHost (char : Char) : Bool :=
  char = '/' || char = '?' || char = '#'

/-- The text after a scheme, cut into host, path, query and fragment. -/
def URL.ofRest (scheme : String) (rest : List Char) : URL where
  scheme := scheme
  user := ""
  host := String.ofList (rest.takeWhile (!URL.endsHost ·))
  path := String.ofList ((rest.dropWhile (!URL.endsHost ·)).takeWhile fun char =>
    char ≠ '?' && char ≠ '#')
  rawQuery := String.ofList (((rest.takeWhile (· ≠ '#')).dropWhile (· ≠ '?')).drop 1)
  fragment := String.ofList ((rest.dropWhile (· ≠ '#')).drop 1)

/-- The scheme of a web address and what follows it. -/
def URL.cutScheme : List Char → Option (String × List Char)
  | 'h' :: 't' :: 't' :: 'p' :: 's' :: ':' :: '/' :: '/' :: rest => some ("https", rest)
  | 'h' :: 't' :: 't' :: 'p' :: ':' :: '/' :: '/' :: rest => some ("http", rest)
  | _ => none

/-- `url.Parse` on web addresses without a user and without escapes, and on texts without
a scheme, which are paths. -/
def URL.parse (text : String) : Option URL :=
  match URL.cutScheme text.toList with
  | some (scheme, rest) => some (.ofRest scheme rest)
  | none => if ':' ∈ text.toList then none else some ⟨"", "", "", text, "", ""⟩

/-- What `url.String` writes behind the host: a path starts with a slash. -/
def URL.renderTail (url : URL) : List Char :=
  (if url.path.toList = [] || url.path.toList.head? = some '/' then url.path.toList
    else '/' :: url.path.toList) ++
    (if url.rawQuery = "" then [] else '?' :: url.rawQuery.toList) ++
    if url.fragment = "" then [] else '#' :: url.fragment.toList

/-- `url.String` for web addresses, which need no escapes. -/
def URL.render (url : URL) : String :=
  if url.host = "" then url.path
  else url.scheme ++ "://" ++ url.host ++ String.ofList url.renderTail

theorem URL.head?_renderTail (url : URL) :
    ∀ char ∈ url.renderTail.head?, URL.endsHost char = true := by
  unfold renderTail
  cases chars : url.path.toList with
  | nil => split_ifs <;> simp [endsHost]
  | cons first rest => by_cases slash : first = '/' <;> simp [slash, endsHost]

theorem URL.takeWhile_host
    {host tail : List Char}
    (inside : ∀ char ∈ host, URL.endsHost char = false)
    (after : ∀ char ∈ tail.head?, URL.endsHost char = true) :
    (host ++ tail).takeWhile (!URL.endsHost ·) = host := by
  rw [List.takeWhile_append_of_pos (by simpa using inside)]
  cases tail with
  | nil => simp
  | cons first rest => simp [after first rfl]

theorem URL.cutScheme_append
    {text rest : List Char}
    {scheme : String}
    (cut : URL.cutScheme text = some (scheme, rest))
    (other : List Char) :
    URL.cutScheme (scheme.toList ++ "://".toList ++ other) = some (scheme, other) := by
  unfold cutScheme at cut
  split at cut <;> cases cut <;> rfl

theorem URL.points_parse
    {text : String}
    {base read : URL}
    {path rawQuery : String}
    (parsed : URL.parse text = some base)
    (web : base.web = true)
    (again : URL.parse (URL.render { base with path, rawQuery }) = some read) :
    read.scheme = base.scheme ∧ read.host = base.host := by
  have filled : base.host ≠ "" := by simpa [URL.web] using (Bool.and_eq_true_iff.mp web).2
  rw [URL.render, if_neg filled] at again
  unfold URL.parse at parsed
  split at parsed
  · next scheme rest cut =>
      cases parsed
      have inside : ∀ char ∈ (URL.ofRest scheme rest).host.toList, endsHost char = false := by
        intro char member
        simp only [ofRest, String.toList_ofList] at member
        simpa using List.all_eq_true.mp List.all_takeWhile char member
      simp only [URL.parse, String.toList_append, String.toList_ofList, List.append_assoc] at again
      rw [← List.append_assoc, show (URL.ofRest scheme rest).scheme = scheme from rfl,
        URL.cutScheme_append cut] at again
      cases again
      refine ⟨rfl, String.toList_inj.mp ?_⟩
      simpa only [ofRest, String.toList_ofList] using
        URL.takeWhile_host inside (URL.head?_renderTail _)
  · split_ifs at parsed
    cases parsed
    simp at filled

/-- Web addresses that need no escapes, and fields as they are. -/
@[reducible] def Wire.plain : Wire where
  parseURL := URL.parse
  parseFailure text := text
  renderURL := URL.render
  points _ _ _ _ _ parsed web again := URL.points_parse parsed web again
  encodeFields fields := String.intercalate "," (fields.toSortedList.map Prod.snd)
  decodeString text := some text

end InfraObserver
