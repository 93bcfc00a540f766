/-
The check of TeslaMate's web page: a redirect or a body that shows the sign-in
page, the read of the body with its cap, and what the transfer's chunks do not
change.
-/
import TeslamateWatchdog.Foundation.Utf8
import TeslamateWatchdog.LogClassifier
import TeslamateWatchdog.Redaction

namespace TeslamateWatchdog

open Foundation

/-- Cap the read so that an enormous body cannot fill the memory. -/
def maxBodyBytes : Nat := 512 * 1024

/-- `sameLetter`, with the two letters beyond ASCII that count as an i. -/
def sameLetterOrI (letter c : Char) : Bool :=
  sameLetter letter c ||
    (letter == 'i' && (c == '\u0130' || c == '\u0131'))

/-- `<form[^>]*sign[_-]?in`, with case ignored. -/
def signinForm : Regex :=
  Redaction.sequence [.literal sameLetterOrI "<form".toList,
    .many 0 (· != '>'), .literal sameLetterOrI "sign".toList,
    .optional (.set fun c => c == '_' || c == '-'),
    .literal sameLetterOrI "in".toList]

/-- A `requests.RequestException`. -/
structure RequestError where
  /-- A `ConnectionError` or a `Timeout`. -/
  unreachable : Bool
  name : String
  message : String
deriving Repr, DecidableEq

structure HttpResponse where
  statusCode : Nat
  location : Option String := none
  /-- What `iter_content` hands out. -/
  chunks : List (List UInt8) := []
  /-- What is raised after the last chunk, if the transfer breaks off. -/
  broken : Option RequestError := none
deriving Repr, DecidableEq

/-- The arguments of the checker; the redirect expression is compiled. -/
structure HttpChecker where
  signinRe : Pattern
  bodyMarkers : List String

/-- The loop of `_read_body`: the chunks so far, and how many bytes they are. -/
def readLoop (broken : Option RequestError) (chunks : List (List UInt8))
    (total : Nat) : List (List UInt8) → Except RequestError (List (List UInt8))
  | [] =>
      match broken with
      | some error => .error error
      | none => .ok chunks
  | chunk :: rest =>
      if maxBodyBytes ≤ total + chunk.length then .ok (chunks ++ [chunk])
      else readLoop broken (chunks ++ [chunk]) (total + chunk.length) rest

/-- The bytes of the body that are kept. -/
def readBytes (response : HttpResponse) : Except RequestError (List UInt8) :=
  (readLoop response.broken [] 0 response.chunks).map List.flatten

def readBody (response : HttpResponse) : Except RequestError String :=
  (readBytes response).map Utf8.decode

namespace HttpChecker

variable (table : PyText.CaseTable) (checker : HttpChecker)

/-- The markers as `__init__` keeps them. -/
def markers : List String :=
  checker.bodyMarkers.map (PyText.lowerBy table)

def findSigninMarker (body : String) : Option String :=
  let lowered := PyText.lowerBy table body
  match (checker.markers table).find? fun marker =>
      decide (marker.toList <:+: lowered.toList) with
  | some marker => some marker
  | none =>
      if signinForm.search Char.isAlphanum false body.toList then
        some "sign-in form element"
      else none

/-- What a page of status 200 comes to, given its text. -/
def classifyPage (elapsedMs : Nat) (checkedAt body : String) : HttpResult :=
  match checker.findSigninMarker table body with
  | some marker =>
      { category := .loggedOut
        statusCode := some 200
        elapsedMs := some elapsedMs
        detail := some ("sign-in marker in body: " ++ marker)
        checkedAt := checkedAt }
  | none =>
      { category := .authenticated
        statusCode := some 200
        elapsedMs := some elapsedMs
        detail := some "200 with no sign-in markers"
        checkedAt := checkedAt }

def classify (elapsedMs : Nat) (checkedAt : String) (response : HttpResponse) :
    Except RequestError HttpResult :=
  let status := response.statusCode
  if 300 ≤ status ∧ status < 400 then
    let location := response.location.getD ""
    if checker.signinRe location then
      .ok
        { category := .loggedOut
          statusCode := some status
          redirectTarget := some location
          elapsedMs := some elapsedMs
          detail := some "redirect to sign-in path"
          checkedAt := checkedAt }
    else
      .ok
        { category := .unknown
          statusCode := some status
          redirectTarget := some location
          elapsedMs := some elapsedMs
          detail := some "redirect to an unrecognised location"
          checkedAt := checkedAt }
  else if status = 200 then
    (readBody response).map (checker.classifyPage table elapsedMs checkedAt)
  else if 500 ≤ status then
    .ok
      { category := .applicationError
        statusCode := some status
        elapsedMs := some elapsedMs
        detail := some "server error response"
        checkedAt := checkedAt }
  else
    .ok
      { category := .unknown
        statusCode := some status
        elapsedMs := some elapsedMs
        detail := some "unhandled status code"
        checkedAt := checkedAt }

/-- `check`, given what the request came to, and the time it took until it was
answered and until it failed. -/
def check (elapsedMs failedMs : Nat) (checkedAt : String)
    (answer : Except RequestError HttpResponse) : HttpResult :=
  match answer.bind (checker.classify table elapsedMs checkedAt) with
  | .ok result => result
  | .error error =>
      { category := if error.unreachable then .unreachable else .unknown
        elapsedMs := some failedMs
        error := some error.name
        detail := some (PyText.front error.message 200)
        checkedAt := checkedAt }

end HttpChecker

/-- The loop keeps whole chunks from the start: all of them, or enough to reach
the cap, and then no more than the chunk that reached it. -/
theorem readLoop_returns {chunks : List (List UInt8)} {total : Nat}
    (hroom : total < maxBodyBytes) (rest : List (List UInt8)) :
    ∃ taken left, rest = taken ++ left ∧
      readLoop none chunks total rest = .ok (chunks ++ taken) ∧
      (left = [] ∨ maxBodyBytes ≤ total + taken.flatten.length) ∧
      ((∀ chunk ∈ rest, chunk.length ≤ 8192) →
        total + taken.flatten.length ≤ maxBodyBytes + 8191) := by
  induction rest generalizing chunks total with
  | nil =>
      refine ⟨[], [], rfl, ?_, .inl rfl, fun _ => ?_⟩
      · rw [List.append_nil]
        rfl
      · rw [List.flatten_nil, List.length_nil]
        omega
  | cons chunk rest ih =>
      by_cases hfull : maxBodyBytes ≤ total + chunk.length
      · refine ⟨[chunk], rest, rfl, if_pos hfull, .inr ?_, fun hsizes => ?_⟩
        · simpa using hfull
        · have hsize := hsizes chunk List.mem_cons_self
          simp only [List.flatten_cons, List.flatten_nil, List.append_nil]
          omega
      · obtain ⟨taken, left, rfl, hread, hcap, hbound⟩ :=
          @ih (chunks ++ [chunk]) (total + chunk.length)
            (Nat.not_le.mp hfull)
        refine ⟨chunk :: taken, left, rfl, ?_, ?_, fun hsizes => ?_⟩
        · rw [readLoop, if_neg hfull, hread, List.append_assoc]
          rfl
        · rw [List.flatten_cons, List.length_append, ← Nat.add_assoc]
          exact hcap
        · rw [List.flatten_cons, List.length_append, ← Nat.add_assoc]
          exact hbound fun other hother => hsizes other (.tail chunk hother)

/-- What is kept of a whole transfer is a first part of the body. -/
theorem readBytes_returns {response : HttpResponse}
    (hwhole : response.broken = none) :
    ∃ retained left, readBytes response = .ok retained ∧
      response.chunks.flatten = retained ++ left ∧
      (left = [] ∨ maxBodyBytes ≤ retained.length) ∧
      ((∀ chunk ∈ response.chunks, chunk.length ≤ 8192) →
        retained.length ≤ maxBodyBytes + 8191) := by
  have hroom : 0 < maxBodyBytes := by decide
  obtain ⟨taken, left, hchunks, hread, hcap, hbound⟩ :=
    @readLoop_returns [] 0 hroom response.chunks
  refine ⟨taken.flatten, left.flatten, ?_, ?_, ?_, ?_⟩
  · rw [readBytes, hwhole, hread]
    rfl
  · rw [hchunks, List.flatten_append]
  · rcases hcap with rfl | hcap
    · exact .inl rfl
    · exact .inr (by omega)
  · intro hsizes
    have hretained := hbound hsizes
    omega

/-- A body no longer than the cap is kept whole. -/
theorem readBytes_of_length_le {response : HttpResponse}
    (hwhole : response.broken = none)
    (hlength : response.chunks.flatten.length ≤ maxBodyBytes) :
    readBytes response = .ok response.chunks.flatten := by
  obtain ⟨retained, left, hread, hbody, hcap, -⟩ := readBytes_returns hwhole
  have hleft : left = [] := by
    rcases hcap with hleft | hcap
    · exact hleft
    · rw [hbody, List.length_append] at hlength
      exact List.length_eq_zero_iff.mp (by omega)
  rw [hread, hbody, hleft, List.append_nil]

/-- A text by which a page is told to be the sign-in page: an ASCII marker in
any case, or the sign-in form element. -/
def HttpChecker.ShowsSignin (checker : HttpChecker) (text : List Char) : Prop :=
  (∃ marker ∈ checker.bodyMarkers,
    (∀ c ∈ marker.toList, c.toNat < 0x80) ∧ (∀ c ∈ text, c.toNat < 0x80) ∧
      text.map Char.toLower = marker.toList.map Char.toLower) ∨
    signinForm.Derives text

/-- But for i, k and s, a letter has no other case beyond ASCII. -/
theorem ascii_of_sameLetterOrI {letter c : Char} (hascii : letter.toNat < 0x80)
    (hi : letter ≠ 'i') (hk : letter ≠ 'k') (hs : letter ≠ 's')
    (hsame : sameLetterOrI letter c = true) : c.toNat < 0x80 := by
  have hother : (letter == 'i') = false := beq_eq_false_iff_ne.mpr hi
  rw [sameLetterOrI, hother, Bool.false_and, Bool.or_false] at hsame
  rcases eq_of_sameLetter hsame with
    rfl | ⟨-, hupper⟩ | ⟨-, hlong⟩ | ⟨-, hkelvin⟩
  · exact hascii
  · omega
  · exact absurd hlong hs
  · exact absurd hkelvin hk

theorem signinForm_begins :
    signinForm.BeginsWith fun c => decide (c.toNat < 0x80) := by
  intro c rest hderives
  have hfirst := Regex.beginsWith_literal _ c rest hderives
  exact decide_eq_true (ascii_of_sameLetterOrI (by decide) (by decide)
    (by decide) (by decide) hfirst)

theorem signinForm_ends :
    signinForm.EndsWith fun c => decide (c.toNat < 0x80) := by
  have hend : (Regex.literal sameLetterOrI "in".toList).EndsWith
      (sameLetterOrI 'n') := Regex.endsWith_literal "i".toList
  have hform : signinForm.EndsWith (sameLetterOrI 'n') :=
    .seq (.seq (.seq (.seq (.seq_empty hend) (by decide)) (by decide))
      (by decide)) (by decide)
  intro front c hderives
  exact decide_eq_true (ascii_of_sameLetterOrI (by decide) (by decide)
    (by decide) (by decide) (hform front c hderives))

section Detection

variable {table : PyText.CaseTable} {checker : HttpChecker}

/-- Such a text begins and ends with ASCII characters, where its bytes can be
cut out of others. -/
theorem ends_of_showsSignin {text : List Char}
    (hshows : checker.ShowsSignin text) :
    (∀ c ∈ text.head?, c.toNat < 0x80) ∧
      ∀ c ∈ text.getLast?, c.toNat < 0x80 := by
  rcases hshows with ⟨_, _, _, hascii, _⟩ | hderives
  · exact ⟨fun c hc => hascii c (List.mem_of_mem_head? hc),
      fun c hc => hascii c (List.mem_of_mem_getLast? hc)⟩
  · constructor
    · intro c hc
      obtain ⟨rest, rfl⟩ := List.head?_eq_some_iff.mp hc
      exact of_decide_eq_true (signinForm_begins c rest hderives)
    · intro c hc
      obtain ⟨front, rfl⟩ := List.getLast?_eq_some_iff.mp hc
      exact of_decide_eq_true (signinForm_ends front c hderives)

/-- Whatever surrounds such a text, the page is told to be the sign-in page. -/
theorem findSigninMarker_isSome {text : List Char}
    (hshows : checker.ShowsSignin text) (left right : List Char) :
    (checker.findSigninMarker table
      (String.ofList (left ++ text ++ right))).isSome = true := by
  unfold HttpChecker.findSigninMarker
  dsimp only
  rcases hfound : (checker.markers table).find? _ with _ | marker
  · rcases hshows with ⟨marker, hmarker, hascii, htext, hsame⟩ | hderives
    · exfalso
      have hmiss := List.find?_eq_none.mp hfound (PyText.lowerBy table marker)
        (List.mem_map_of_mem hmarker)
      apply hmiss
      rw [PyText.toList_lowerBy_ascii table hascii, ← hsame, decide_eq_true_eq,
        PyText.lowerBy, String.toList_ofList, String.toList_ofList]
      exact PyText.infix_lowerFrom table htext [] left right
    · rw [String.toList_ofList,
        Regex.search_of_derives (by decide) hderives, if_pos rfl]
      rfl
  · rfl

theorem category_classifyPage {elapsedMs : Nat} {checkedAt body : String} :
    (checker.classifyPage table elapsedMs checkedAt body).category =
        .loggedOut ↔
      (checker.findSigninMarker table body).isSome = true := by
  unfold HttpChecker.classifyPage
  cases checker.findSigninMarker table body <;> simp

theorem check_page {response : HttpResponse} (hstatus : response.statusCode = 200)
    {retained : List UInt8} (hread : readBytes response = .ok retained)
    (elapsedMs failedMs : Nat) (checkedAt : String) :
    checker.check table elapsedMs failedMs checkedAt (.ok response) =
      checker.classifyPage table elapsedMs checkedAt
        (Utf8.decode retained) := by
  have hclassify : checker.classify table elapsedMs checkedAt response =
      .ok (checker.classifyPage table elapsedMs checkedAt
        (Utf8.decode retained)) := by
    unfold HttpChecker.classify readBody
    rw [hstatus, hread]
    rfl
  rw [HttpChecker.check, Except.bind, hclassify]

/-- How the body of a page was divided into chunks does not tell in what comes
of it, up to the cap; past the cap at most one chunk less a byte is kept, and
what shows the sign-in page before the cap is not missed. -/
theorem signin_detection (table : PyText.CaseTable) (checker : HttpChecker)
    {response : HttpResponse} (hstatus : response.statusCode = 200)
    (hwhole : response.broken = none)
    (hsizes : ∀ chunk ∈ response.chunks, chunk.length ≤ 8192)
    (elapsedMs failedMs : Nat) (checkedAt : String) :
    (response.chunks.flatten.length ≤ maxBodyBytes →
      checker.check table elapsedMs failedMs checkedAt (.ok response) =
        checker.classifyPage table elapsedMs checkedAt
          (Utf8.decode response.chunks.flatten)) ∧
    (∃ retained, readBytes response = .ok retained ∧
      retained <+: response.chunks.flatten ∧
      retained.length ≤ maxBodyBytes + 8191) ∧
    ∀ before part after, response.chunks.flatten = before ++ part ++ after →
      before.length + part.length ≤ maxBodyBytes →
      checker.ShowsSignin (Utf8.decode part).toList →
      (checker.check table elapsedMs failedMs checkedAt
        (.ok response)).category = .loggedOut := by
  obtain ⟨retained, left, hread, hbody, hcap, hbound⟩ :=
    readBytes_returns hwhole
  have hretained : retained <+: response.chunks.flatten :=
    ⟨left, hbody.symm⟩
  refine ⟨fun hlength => ?_, ⟨retained, hread, hretained, hbound hsizes⟩, ?_⟩
  · exact check_page hstatus (readBytes_of_length_le hwhole hlength) _ _ _
  · intro before part after hsplit hlength hshows
    have hpart : before ++ part <+: response.chunks.flatten :=
      ⟨after, hsplit.symm⟩
    have hkept : before ++ part <+: retained := by
      rcases hcap with rfl | hcap
      · rwa [hbody, List.append_nil] at hpart
      · apply List.prefix_of_prefix_length_le hpart hretained
        rw [List.length_append]
        omega
    obtain ⟨tail, rfl⟩ := hkept
    rw [Utf8.toList_decode] at hshows
    obtain ⟨hfirst, hlast⟩ := ends_of_showsSignin hshows
    obtain ⟨front, back, htext⟩ :=
      Utf8.decodeChars_between before tail hfirst hlast
    have hdecode : Utf8.decode (before ++ part ++ tail) =
        String.ofList (front ++ Utf8.decodeChars part ++ back) := by
      rw [← htext]
      rfl
    rw [check_page hstatus hread, category_classifyPage, hdecode]
    exact findSigninMarker_isSome hshows front back

end Detection

/-- A page whose chunks end inside a character and inside a marker:
`<p>café Refresh Token</p>`. -/
def splitPage : HttpResponse where
  statusCode := 200
  chunks := [[0x3c, 0x70, 0x3e, 0x63, 0x61, 0x66, 0xc3],
    [0xa9, 0x20, 0x52, 0x65, 0x66, 0x72, 0x65, 0x73, 0x68, 0x20, 0x54, 0x6f],
    [0x6b, 0x65, 0x6e, 0x3c, 0x2f, 0x70, 0x3e]]

/-- A checker of one marker, with a literal redirect expression. -/
def tokenChecker : HttpChecker where
  signinRe location := decide ("/sign_in".toList <:+: location.toList)
  bodyMarkers := ["refresh token"]

theorem splitPage_detected :
    tokenChecker.check (fun _ c _ => [c]) 12 12 "" (.ok splitPage) =
        tokenChecker.classifyPage (fun _ c _ => [c]) 12 ""
          "<p>café Refresh Token</p>" ∧
      (tokenChecker.check (fun _ c _ => [c]) 12 12 ""
        (.ok splitPage)).category = .loggedOut := by
  have hdetection := @signin_detection (fun _ c _ => [c]) tokenChecker splitPage
    rfl rfl (by decide) 12 12 ""
  refine ⟨hdetection.1 (by decide), ?_⟩
  have hmarker : ("refresh token".toList.all fun c => decide (c.toNat < 0x80)) =
      true := by decide +kernel
  have htext : Utf8.decode [0x52, 0x65, 0x66, 0x72, 0x65, 0x73, 0x68, 0x20,
      0x54, 0x6f, 0x6b, 0x65, 0x6e] = "Refresh Token" := by decide +kernel
  have hpart : ("Refresh Token".toList.all fun c => decide (c.toNat < 0x80)) =
      true := by decide +kernel
  refine hdetection.2.2
    [0x3c, 0x70, 0x3e, 0x63, 0x61, 0x66, 0xc3, 0xa9, 0x20]
    [0x52, 0x65, 0x66, 0x72, 0x65, 0x73, 0x68, 0x20, 0x54, 0x6f, 0x6b, 0x65,
      0x6e] [0x3c, 0x2f, 0x70, 0x3e] (by decide) (by decide) ?_
  rw [htext]
  exact .inl ⟨"refresh token", List.mem_singleton_self _,
    fun c hc => of_decide_eq_true (List.all_eq_true.mp hmarker c hc),
    fun c hc => of_decide_eq_true (List.all_eq_true.mp hpart c hc),
    by decide +kernel⟩

end TeslamateWatchdog
