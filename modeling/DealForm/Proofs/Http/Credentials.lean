import DealForm.Api.Client
import DealForm.Proofs.Outcome
import DealForm.Proofs.Session.Key

/-!
# Credentials do not steer a transfer

A transfer looks at the names of headers, never at the value of one that carries credentials. Where
it goes, when it ends and what it makes of an answer stay the same with other credentials, as long
as they can be sent. So two uploads that differ in their key alone send requests that differ in the
bearer header alone.
-/

namespace DealForm

variable {φ : Header → Header} {g : String → String} {key key' : String}

/-- Changes nothing but the values of headers that carry credentials. -/
structure Header.KeepsPublic (φ : Header → Header) : Prop where
  name : ∀ h, (φ h).name = h.name
  value : ∀ h, h.name ≠ "authorization" → φ h = h

def Request.mapHeaders (φ : Header → Header) (r : Request) : Request :=
  { r with headers := r.headers.map φ }

theorem Request.mapHeaders_id (r : Request) : r.mapHeaders id = r := by
  rw [mapHeaders, List.map_id]

namespace Transfer

variable {t : Transfer}

def mapHeaders (φ : Header → Header) (t : Transfer) : Transfer :=
  { t with request := t.request.mapHeaders φ, headers := t.headers.map φ }

def Progress.mapHeaders (φ : Header → Header) : Progress → Progress
  | .waiting t => .waiting (t.mapHeaders φ)
  | .ended result => .ended result

/-! ## Redirects -/

theorem map_withoutContent (hφ : Header.KeepsPublic φ) (headers : List Header) :
    (withoutContent headers).map φ = withoutContent (headers.map φ) := by
  rw [withoutContent, withoutContent, List.filter_map]
  congr 2
  funext h
  simp [hφ.name]

theorem map_filter_isPrivate (hφ : Header.KeepsPublic φ) (headers : List Header) :
    (headers.filter (!isPrivate ·)).map φ = (headers.map φ).filter (!isPrivate ·) := by
  rw [List.filter_map]
  congr 2
  funext h
  simp [isPrivate, hφ.name]

theorem map_referer (hφ : Header.KeepsPublic φ) (previous next : Url) :
    (referer previous next).map φ = referer previous next := by
  unfold referer
  split
  · rfl
  · rw [List.map_singleton, hφ.value _ (by simp)]

theorem goOn_mapHeaders (hφ : Header.KeepsPublic φ) (t : Transfer) (method : Method) (next : Url) :
    (t.mapHeaders φ).goOn method next = (t.goOn method next).mapHeaders φ := by
  have hleft : (t.mapHeaders φ).redirectsLeft = t.redirectsLeft := rfl
  have hmethod : (t.mapHeaders φ).request.method = t.request.method := rfl
  have haddress : (t.mapHeaders φ).request.address = t.request.address := rfl
  have hheaders : (t.mapHeaders φ).headers = t.headers.map φ := rfl
  unfold goOn
  simp only [hleft, hmethod, haddress, hheaders]
  split
  · rfl
  · split
    · rfl
    · simp only [Progress.mapHeaders, mapHeaders, Request.mapHeaders, List.map_append,
        map_referer hφ, apply_ite (List.map φ), map_withoutContent hφ, map_filter_isPrivate hφ]

theorem receive_mapHeaders (hφ : Header.KeepsPublic φ) (t : Transfer) (r : Response) :
    (t.mapHeaders φ).receive r = (t.receive r).mapHeaders φ := by
  have hrepeated : repeatedAs? r.status (t.mapHeaders φ).request = repeatedAs? r.status t.request :=
    rfl
  have hnext : (t.mapHeaders φ).next? r = t.next? r := rfl
  unfold receive
  rw [hrepeated, hnext]
  split
  · split
    · exact goOn_mapHeaders hφ t _ _
    · rfl
  · rfl

theorem answered_mapHeaders (hφ : Header.KeepsPublic φ) (t : Transfer) (a : Answer) :
    (t.mapHeaders φ).answered a = (t.answered a).mapHeaders φ := by
  cases a with
  | refused | closed => rfl
  | response r =>
      simp only [answered]
      split
      · exact receive_mapHeaders hφ t r
      · rfl

/-! ## The first request -/

theorem begin?_mapHeaders (hφ : Header.KeepsPublic φ)
    (huser : ∀ name password, φ (Header.basic name password) = Header.basic name password)
    (method : Method) (url : String) {headers : List Header} (body : Option Bytes)
    (hsendable : (headers.map φ).all Header.isSendable = headers.all Header.isSendable) :
    begin? method url (headers.map φ) body =
      (begin? method url headers body).map (mapHeaders φ) := by
  have htake : ∀ u : Url, (takeUser u).2.map φ = (takeUser u).2 := by
    intro u
    unfold takeUser
    split
    · rfl
    · rw [List.map_singleton, huser]
  unfold begin?
  cases openUrl url with
  | error fault => rfl
  | ok u =>
      have haccept : φ ⟨"accept", "*/*"⟩ = ⟨"accept", "*/*"⟩ := hφ.value _ (by simp)
      simp only [bind, Except.bind, hsendable]
      split
      · rfl
      · split
        · rfl
        · simp only [Except.map, mapHeaders, fresh, Request.mapHeaders, List.map_append,
            List.map_cons, haccept, htake]

end Transfer

/-! ## Keys -/

namespace Header

def bearer (key : String) : Header :=
  ⟨"authorization", "Bearer " ++ key⟩

/-- Puts the header of one key in the place of that of another. -/
def rekey (old new : String) (h : Header) : Header :=
  if h = bearer old then bearer new else h

theorem keepsPublic_id : KeepsPublic id := ⟨fun _ ↦ rfl, fun _ _ ↦ rfl⟩

theorem keepsPublic_rekey (old new : String) : KeepsPublic (rekey old new) where
  name h := by
    unfold rekey
    split
    · next hold => rw [hold, bearer, bearer]
    · rfl
  value h hname := by
    apply if_neg
    rintro rfl
    exact hname rfl

/-- The header of a user and that of a key are told apart by their second letter. -/
theorem basic_ne_bearer (name : String) (password : Option String) (key : String) :
    basic name password ≠ bearer key := by
  intro hsame
  have hvalue := congrArg (fun h : Header ↦ h.value.toList[1]?) hsame
  simp [basic, bearer, String.toList_append] at hvalue

end Header

def SameAcceptance (key key' : String) : Prop :=
  (Header.bearer key).isSendable = (Header.bearer key').isSendable

/-- One key for all that can be sent, and one for all others. -/
def maskedKey (key : String) : String :=
  if (Header.bearer key).isSendable then "" else "\n"

theorem maskedKey_eq (h : SameAcceptance key key') : maskedKey key = maskedKey key' := by
  rw [maskedKey, maskedKey, h]

theorem sameAcceptance_of_maskedKey (h : maskedKey key = maskedKey key') :
    SameAcceptance key key' := by
  unfold maskedKey at h
  unfold SameAcceptance
  split_ifs at h with hkey hkey' hkey'
  · rw [hkey, hkey']
  · exact absurd h (by decide)
  · exact absurd h (by decide)
  · rw [Bool.not_eq_true] at hkey hkey'
    rw [hkey, hkey']

namespace Call

variable {c d : Call}

/-- What becomes of a header if the first call is replaced by the second. -/
def rekeying : Call → Call → Header → Header
  | .upload r, .upload r' => Header.rekey r.input.apiKey r'.input.apiKey
  | _, _ => id

theorem keepsPublic_rekeying (c d : Call) : Header.KeepsPublic (c.rekeying d) := by
  unfold rekeying
  split
  · exact Header.keepsPublic_rekey _ _
  · exact Header.keepsPublic_id

theorem headers_withKey (boundary : String) (r : UploadRequest) (key : String) :
    (r.withKey key).headers boundary =
      (r.headers boundary).map (Header.rekey r.input.apiKey key) := by
  have hpublic := (Header.keepsPublic_rekey r.input.apiKey key).value
  have hbearer : Header.rekey r.input.apiKey key (Header.bearer r.input.apiKey) =
      Header.bearer key := if_pos rfl
  have hminer := hpublic ⟨"x-minerid", r.input.minerId⟩ (by simp)
  have hcontent := hpublic ⟨"content-type", Multipart.contentType boundary⟩ (by simp)
  simp only [UploadRequest.headers, List.map_cons, List.map_nil, hminer, hcontent]
  exact congrArg (· :: _) hbearer.symm

theorem all_isSendable_withKey {r : UploadRequest} {key : String}
    (h : SameAcceptance r.input.apiKey key) (boundary : String) :
    ((r.withKey key).headers boundary).all Header.isSendable =
      (r.headers boundary).all Header.isSendable := by
  have hbearer : Header.isSendable ⟨"authorization", "Bearer " ++ key⟩ =
      Header.isSendable ⟨"authorization", "Bearer " ++ r.input.apiKey⟩ := h.symm
  simp only [UploadRequest.headers, List.all_cons]
  exact congrArg (· && _) hbearer

theorem transfer?_withKey {r : UploadRequest} {key : String}
    (h : SameAcceptance r.input.apiKey key) (boundary : String) :
    (upload (r.withKey key)).transfer? boundary = ((upload r).transfer? boundary).map
      (Transfer.mapHeaders (Header.rekey r.input.apiKey key)) := by
  have hsendable := all_isSendable_withKey h boundary
  have huser : ∀ name password, Header.rekey r.input.apiKey key (Header.basic name password) =
      Header.basic name password :=
    fun name password ↦ if_neg (Header.basic_ne_bearer name password _)
  have hbegin := Transfer.begin?_mapHeaders (Header.keepsPublic_rekey r.input.apiKey key) huser
    .post r.endpoint (some (Multipart.body boundary r.parts))
    (headers_withKey boundary r key ▸ hsendable)
  rw [← headers_withKey] at hbegin
  exact hbegin

/-- Calls that differ in their keys alone set out alike, if both keys can be sent or neither. -/
theorem transfer?_of_rekey (h : c.rekey maskedKey = d.rekey maskedKey) (boundary : String) :
    d.transfer? boundary = (c.transfer? boundary).map (Transfer.mapHeaders (c.rekeying d)) := by
  cases c with
  | upload r =>
      cases d with
      | upload r' =>
          have hr' := UploadRequest.eq_withKey (upload.inj h)
          have hkey : maskedKey r.input.apiKey = maskedKey r'.input.apiKey :=
            congrArg (fun r ↦ r.input.apiKey) (upload.inj h)
          have htransfer := transfer?_withKey (sameAcceptance_of_maskedKey hkey) boundary
          rw [← hr'] at htransfer
          exact htransfer
      | status r' => cases h
  | status r =>
      cases d with
      | upload r' => cases h
      | status r' =>
          cases h
          have hid : Transfer.mapHeaders id = id := by
            funext t
            rw [Transfer.mapHeaders, Request.mapHeaders_id, List.map_id, id]
          have hrekeying : (status r).rekeying (status r) = id := rfl
          rw [hrekeying, hid, Except.map_id, id]

theorem departure_of_rekey (h : c.rekey g = d.rekey g) : d.departure = c.departure := by
  rcases sameButKey_of_rekey h with rfl | ⟨r, key, rfl, rfl⟩ <;> rfl

theorem successEvents_withKey (r : UploadRequest) (key : String) (body : Json) :
    (upload (r.withKey key)).successEvents body = (upload r).successEvents body := by
  unfold successEvents
  cases DealReply.ofJson? body <;> rfl

theorem conclude_withKey (r : UploadRequest) (key : String) (response : Response) :
    (upload (r.withKey key)).conclude response = (upload r).conclude response := by
  simp only [conclude, successEvents_withKey]
  rfl

theorem concludeTransfer_of_rekey (h : c.rekey g = d.rekey g)
    (result : Except HttpFault Response) :
    d.concludeTransfer result = c.concludeTransfer result := by
  rcases sameButKey_of_rekey h with rfl | ⟨r, key, rfl, rfl⟩
  · rfl
  · cases result with
    | ok response => exact conclude_withKey r key response
    | error fault => rfl

end Call

end DealForm
