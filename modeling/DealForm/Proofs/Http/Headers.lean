import DealForm.Http.Server
import DealForm.Proofs.Http.Session
import DealForm.Proofs.Http.Wire
import DealForm.Proofs.Outcome
import DealForm.Proofs.Url.Printable

/-!
# The headers of an upload hold its values

The key and the miner of an upload are any texts. One that holds a byte which no header may hold
keeps the upload from being sent at all; all others stand in their own headers byte for byte, and
reach no other line of a request.
-/

namespace DealForm

variable {σ : Type}

/-! ## Requests that reach a network -/

/-- The network with a record of the requests that reached it. -/
def Network.recorded (net : Network σ) : Network (List Request × σ) := fun request (sent, w) ↦
  ((net request w).1, sent ++ [request], (net request w).2)

/-- A request that a redirect led to. It carries these headers, with or without the private ones,
and maybe where it came from. -/
structure Request.GoesOn (headers : List Header) (q : Request) : Prop where
  method : q.method = .get
  body : q.body = none
  headers : ∃ carried tail, q.headers = carried ++ tail ∧
    (carried = headers ∨ carried = headers.filter (!Transfer.isPrivate ·)) ∧
    (tail = [] ∨ ∃ place, tail = [⟨"referer", place⟩])

namespace Transfer

variable {t u : Transfer} {headers : List Header} {a : Answer} {net : Network σ} {w : σ}
  {sent : List Request} {method : Method} {next : Url}

/-- The transfer stands at a first request with a body and these headers, or follows a redirect
without what they tell of the body. -/
inductive Carries (headers : List Header) (t : Transfer) : Prop where
  | first (hmethod : t.request.method = .post) (hbody : t.request.body.isSome = true)
      (hheaders : t.headers = headers)
  | later (hmethod : t.request.method = .get) (hbody : t.request.body = none)
      (hheaders : t.headers = withoutContent headers)

theorem Carries.method_eq_get {status : Nat} (h : t.Carries headers)
    (hrepeated : repeatedAs? status t.request = some (method, none)) : method = .get := by
  unfold repeatedAs? at hrepeated
  cases h with
  | first hmethod hbody _ =>
      obtain ⟨body, hbody⟩ := Option.isSome_iff_exists.mp hbody
      simp only [hmethod, hbody] at hrepeated
      split_ifs at hrepeated <;> cases hrepeated <;> rfl
  | later hmethod hbody _ =>
      simp only [hmethod, hbody] at hrepeated
      split_ifs at hrepeated <;> cases hrepeated <;> rfl

theorem Carries.goOn (h : t.Carries headers) (hgoOn : t.goOn .get next = .waiting u) :
    u.Carries headers ∧ u.request.GoesOn (withoutContent headers) := by
  have hkept : (if t.request.method = .get then t.headers else withoutContent t.headers) =
      withoutContent headers := by
    cases h with
    | first hmethod _ hheaders => simp [hmethod, hheaders]
    | later hmethod _ hheaders => simp [hmethod, hheaders]
  simp only [Transfer.goOn, hkept] at hgoOn
  split at hgoOn
  · cases hgoOn
  · split at hgoOn
    · cases hgoOn
    · cases hgoOn
      refine ⟨.later rfl rfl rfl, rfl, rfl, _, _, rfl, ?_, ?_⟩
      · split
        · exact Or.inl rfl
        · exact Or.inr rfl
      · unfold referer
        split
        · exact Or.inl rfl
        · exact Or.inr ⟨_, rfl⟩

theorem Carries.answered (h : t.Carries headers) (ha : t.answered a = .waiting u) :
    u.Carries headers ∧ u.request.GoesOn (withoutContent headers) := by
  cases a with
  | refused | closed => cases ha
  | response r =>
      simp only [Transfer.answered, receive] at ha
      split at ha
      · split at ha
        · next method hrepeated =>
          split at ha
          · rw [h.method_eq_get hrepeated] at ha
            exact h.goOn ha
          · cases ha
        · cases ha
      · cases ha

/-- The first request reaches the network as it is, and only redirected ones follow it. -/
theorem Carries.run (h : t.Carries headers) (net : Network σ) (sent : List Request) (w : σ) :
    ∃ rest, (t.run net.recorded (sent, w)).2.1 = sent ++ t.request :: rest ∧
      ∀ q ∈ rest, q.GoesOn (withoutContent headers) := by
  induction t, w using Transfer.run.induct net generalizing sent with
  | case1 t w step result ha =>
      have hended : t.answered (net.recorded t.request (sent, w)).1 = .ended result := ha
      rw [run_of_ended hended]
      exact ⟨[], rfl, List.forall_mem_nil _⟩
  | case2 t w step next ha ih =>
      have hwaiting : t.answered (net.recorded t.request (sent, w)).1 = .waiting next := ha
      obtain ⟨hnext, hgoesOn⟩ := h.answered ha
      obtain ⟨rest, hrest, hall⟩ := ih hnext (sent ++ [t.request])
      refine ⟨next.request :: rest, ?_, List.forall_mem_cons.mpr ⟨hgoesOn, hall⟩⟩
      rw [run_of_waiting hwaiting]
      exact hrest.trans (by simp)

/-- A network answers the same when its requests are recorded. -/
theorem run_recorded (t : Transfer) (net : Network σ) (sent : List Request) (w : σ) :
    (t.run net.recorded (sent, w)).1 = (t.run net w).1 ∧
      (t.run net.recorded (sent, w)).2.2 = (t.run net w).2 := by
  induction t, w using Transfer.run.induct net generalizing sent with
  | case1 t w step result ha =>
      have hended : t.answered (net.recorded t.request (sent, w)).1 = .ended result := ha
      rw [run_of_ended hended, run_of_ended ha]
      exact ⟨rfl, rfl⟩
  | case2 t w step next ha ih =>
      have hwaiting : t.answered (net.recorded t.request (sent, w)).1 = .waiting next := ha
      rw [run_of_waiting hwaiting, run_of_waiting ha]
      exact ih _

theorem openUrl_eq_ok {text : String} {v : Url} :
    openUrl text = .ok v ↔ Url.parse? text = some v ∧ v.hasHost = true := by
  unfold openUrl
  cases Url.parse? text with
  | none => simp
  | some u =>
      simp only [Option.some.injEq]
      split
      · next hhost =>
        exact ⟨fun h ↦ ⟨Except.ok.inj h, Except.ok.inj h ▸ hhost⟩, fun h ↦ congrArg _ h.1⟩
      · next hhost =>
        refine iff_of_false nofun ?_
        rintro ⟨rfl, hthere⟩
        exact hhost hthere

theorem takeUser_of_userChars {v : Url} (h : v.userChars = []) : takeUser v = (v, []) := by
  obtain ⟨hname, hpassword⟩ := Url.userChars_eq_nil.mp h
  have hnone : v.credentials? = none := by
    rw [Url.credentials?, hname, hpassword]
    rfl
  rw [takeUser, hnone]

theorem isWeb_takeUser (v : Url) : (takeUser v).1.isWeb = v.isWeb := by
  unfold takeUser
  split <;> rfl

end Transfer

/-! ## Values of headers -/

/-- A byte that no value of a header may hold: a control but the tab. -/
def IsRefusedByte (b : UInt8) : Prop :=
  (b < 0x20 ∧ b ≠ 9) ∨ b = 0x7F

theorem isValueByte_eq_false {b : UInt8} : Header.isValueByte b = false ↔ IsRefusedByte b := by
  simp only [Header.isValueByte, IsRefusedByte, Bool.or_eq_false_iff, Bool.and_eq_false_iff,
    beq_eq_false_iff_ne, bne_eq_false_iff_eq, decide_eq_false_iff_not, UInt8.not_le]
  constructor
  · rintro ⟨htab, hlow | hdelete⟩
    · exact Or.inl ⟨hlow, htab⟩
    · exact Or.inr hdelete
  · rintro (⟨hlow, htab⟩ | rfl)
    · exact ⟨htab, Or.inl hlow⟩
    · exact ⟨by decide, Or.inr rfl⟩

/-- The line of a header that can be sent is not broken by its value. -/
theorem Header.isUnbroken_line {name value : String}
    (hname : (Utf8.encode name).all isValueByte = true)
    (hvalue : isSendable ⟨name, value⟩ = true) : Wire.IsUnbroken (line ⟨name, value⟩) := by
  have hcolon : (Utf8.encode ": ").all isValueByte = true := by decide
  have hall : ∀ b ∈ line ⟨name, value⟩, isValueByte b = true := by
    rw [← List.all_eq_true, line, List.all_append, List.all_append, hname, hcolon]
    exact hvalue
  refine ⟨fun hnil ↦ ?_, fun hmem ↦ ?_, fun hmem ↦ ?_⟩
  · rw [line, List.append_eq_nil_iff, List.append_eq_nil_iff] at hnil
    exact absurd hnil.1.2 (by decide)
  · exact absurd (hall 13 hmem) (by decide)
  · exact absurd (hall 10 hmem) (by decide)

namespace UploadRequest

variable {r : UploadRequest} {boundary : String}

/-- The key or the miner holds a byte that no header may hold. -/
def HoldsRefusedByte (r : UploadRequest) : Prop :=
  ∃ b ∈ Utf8.encode r.input.minerId ++ Utf8.encode r.input.apiKey, IsRefusedByte b

/-- Requests can be sent to the endpoint, in forms with this boundary. -/
def CanBeSent (boundary : String) (r : UploadRequest) : Prop :=
  (∃ u, Transfer.openUrl r.endpoint = .ok u ∧ u.isWeb = true ∧ u.isAddress = true) ∧
    Header.isSendable ⟨"content-type", Multipart.contentType boundary⟩ = true

theorem not_holdsRefusedByte : ¬ r.HoldsRefusedByte ↔
    (Utf8.encode r.input.minerId).all Header.isValueByte = true ∧
      (Utf8.encode r.input.apiKey).all Header.isValueByte = true := by
  rw [← Bool.and_eq_true, ← List.all_append, List.all_eq_true, HoldsRefusedByte]
  constructor
  · intro h b hb
    by_contra hbad
    exact h ⟨b, hb, isValueByte_eq_false.mp (Bool.eq_false_iff.mpr hbad)⟩
  · rintro h ⟨b, hb, hrefused⟩
    have hgood := h b hb
    rw [isValueByte_eq_false.mpr hrefused] at hgood
    cases hgood

theorem all_isSendable_iff : (r.headers boundary).all Header.isSendable = true ↔
    ¬ r.HoldsRefusedByte ∧
      Header.isSendable ⟨"content-type", Multipart.contentType boundary⟩ = true := by
  have hbearer : Header.isSendable ⟨"authorization", "Bearer " ++ r.input.apiKey⟩ =
      (Utf8.encode r.input.apiKey).all Header.isValueByte := by
    have hprefix : (Utf8.encode "Bearer ").all Header.isValueByte = true := by decide
    rw [Header.isSendable, Utf8.encode_append, List.all_append, hprefix, Bool.true_and]
  have hminer : Header.isSendable ⟨"x-minerid", r.input.minerId⟩ =
      (Utf8.encode r.input.minerId).all Header.isValueByte := rfl
  simp only [headers, List.all_cons, List.all_nil, hbearer, hminer, Bool.and_true,
    Bool.and_eq_true, not_holdsRefusedByte]
  tauto

def transfer (boundary : String) (r : UploadRequest) (u : Url) : Transfer :=
  .fresh .post u (⟨"accept", "*/*"⟩ :: r.headers boundary) (some (Multipart.body boundary r.parts))

theorem transfer?_eq_ok (hbase : r.NamesNoUser) (hbytes : ¬ r.HoldsRefusedByte)
    (hsent : r.CanBeSent boundary) :
    ∃ u, Transfer.openUrl r.endpoint = .ok u ∧ u.isWeb = true ∧ u.isAddress = true ∧
      (Call.upload r).transfer? boundary = .ok (r.transfer boundary u) := by
  obtain ⟨⟨u, hopen, hweb, haddress⟩, hcontent⟩ := hsent
  have htake := Transfer.takeUser_of_userChars
    (hbase.userChars_eq_nil (Transfer.openUrl_eq_ok.mp hopen).1 hweb)
  have hall := all_isSendable_iff.mpr ⟨hbytes, hcontent⟩
  refine ⟨u, hopen, hweb, haddress, ?_⟩
  simp [Call.transfer?, Transfer.begin?, hopen, htake, hall, hweb, haddress, transfer, bind,
    Except.bind]

theorem canBeSent_of_transfer? {t : Transfer} (hbase : r.NamesNoUser)
    (h : (Call.upload r).transfer? boundary = .ok t) :
    ¬ r.HoldsRefusedByte ∧ r.CanBeSent boundary := by
  obtain ⟨u, hopen, h⟩ := bind_eq_ok.mp h
  dsimp only at h
  split_ifs at h with hall hplace
  obtain ⟨hbytes, hcontent⟩ := all_isSendable_iff.mp (by simpa using hall)
  obtain ⟨hweb, haddress⟩ := Bool.and_eq_true_iff.mp (by simpa using hplace)
  rw [Transfer.isWeb_takeUser] at hweb
  rw [Transfer.takeUser_of_userChars
    (hbase.userChars_eq_nil (Transfer.openUrl_eq_ok.mp hopen).1 hweb)] at haddress
  exact ⟨hbytes, ⟨u, hopen, hweb, haddress⟩, hcontent⟩

theorem transfer?_eq_error (hbase : r.NamesNoUser)
    (h : r.HoldsRefusedByte ∨ ¬ r.CanBeSent boundary) :
    ∃ fault, (Call.upload r).transfer? boundary = .error fault := by
  cases htransfer : (Call.upload r).transfer? boundary with
  | error fault => exact ⟨fault, rfl⟩
  | ok t =>
      obtain ⟨hbytes, hsent⟩ := canBeSent_of_transfer? hbase htransfer
      exact absurd h (not_or.mpr ⟨hbytes, not_not.mpr hsent⟩)

/-! ## The request of an upload -/

/-- The request that sends an upload. However it is written, its address breaks no line, and the
key and the miner stand in one line of its head each, which leave the other lines as they are. -/
structure Sends (boundary : String) (r : UploadRequest) (q : Request) : Prop where
  address : ∃ u, Url.parse? r.endpoint = some u ∧ q.address = u.asAddress
  target : IsPrintable q.address.target.toList
  authority : IsPrintable q.address.authorityChars
  method : q.method = .post
  body : q.body = some (Multipart.body boundary r.parts)
  headers : q.headers = [⟨"accept", "*/*"⟩, ⟨"authorization", "Bearer " ++ r.input.apiKey⟩,
    ⟨"x-minerid", r.input.minerId⟩, ⟨"content-type", Multipart.contentType boundary⟩]
  unbroken : ∀ h ∈ q.headers, Wire.IsUnbroken h.line
  lines : ∀ others bytes, (∀ line ∈ others, Wire.IsUnbroken line) → q.IsWrittenAs others bytes →
    ∀ turns, others.length + 4 < turns → ∃ lines,
      Wire.cutHead turns bytes = some (lines, Multipart.body boundary r.parts) ∧
        lines.Perm (others ++ [Utf8.encode "accept: */*",
          Utf8.encode "authorization: Bearer " ++ Utf8.encode r.input.apiKey,
          Utf8.encode "x-minerid: " ++ Utf8.encode r.input.minerId,
          Utf8.encode ("content-type: " ++ Multipart.contentType boundary)])

theorem map_line_headers (boundary : String) (r : UploadRequest) :
    (⟨"accept", "*/*"⟩ :: r.headers boundary).map Header.line =
      [Utf8.encode "accept: */*",
        Utf8.encode "authorization: Bearer " ++ Utf8.encode r.input.apiKey,
        Utf8.encode "x-minerid: " ++ Utf8.encode r.input.minerId,
        Utf8.encode ("content-type: " ++ Multipart.contentType boundary)] := by
  simp only [headers, List.map_cons, List.map_nil, Header.line, ← Utf8.encode_append,
    ← String.append_assoc]
  rfl

theorem isUnbroken_line_of_all (hsendable : (r.headers boundary).all Header.isSendable = true) :
    ∀ h ∈ (⟨"accept", "*/*"⟩ : Header) :: r.headers boundary, Wire.IsUnbroken h.line := by
  have hall := List.all_eq_true.mp hsendable
  simp only [headers, List.forall_mem_cons] at hall ⊢
  obtain ⟨hbearer, hminer, hcontent, -⟩ := hall
  exact ⟨Header.isUnbroken_line (by decide) (by decide),
    Header.isUnbroken_line (by decide) hbearer, Header.isUnbroken_line (by decide) hminer,
    Header.isUnbroken_line (by decide) hcontent, List.forall_mem_nil _⟩

theorem sends_transfer {u : Url} (hopen : Transfer.openUrl r.endpoint = .ok u)
    (hweb : u.isWeb = true) (haddress : u.isAddress = true)
    (hsendable : (r.headers boundary).all Header.isSendable = true) :
    r.Sends boundary (r.transfer boundary u).request := by
  obtain ⟨hparse, hhost⟩ := Transfer.openUrl_eq_ok.mp hopen
  have hunbroken := isUnbroken_line_of_all hsendable
  have hauthority : IsPrintable u.authorityChars := Url.isPrintable_authorityChars haddress hhost
  exact
    { address := ⟨u, hparse, rfl⟩
      target := Url.isPrintable_target hparse hweb
      authority := hauthority
      method := rfl
      body := rfl
      headers := rfl
      unbroken := hunbroken
      lines := fun others bytes hothers hwritten turns hturns ↦ by
        rw [← map_line_headers]
        exact hwritten.cutHead hothers hunbroken hturns }

end UploadRequest

/-- An upload whose key or miner holds a byte that no header may hold fails before any request, as
does one that can not be sent. Any other upload reaches the network with one request, in which the
key and the miner stand byte for byte in one line each and, whoever writes it, leave the other lines
as they are. Only lookups that redirects lead to may follow, and these carry no other values in the
same headers. -/
theorem upload_headers_hold_values (boundary : String) (net : Network σ) (w : σ)
    (r : UploadRequest) (hbase : r.NamesNoUser) :
    let served := Api.http boundary net.recorded (.upload r) ([], w)
    let sent := served.2.1
    (served.1 = (Api.http boundary net (.upload r) w).1 ∧
      served.2.2 = (Api.http boundary net (.upload r) w).2) ∧
    (r.HoldsRefusedByte ∨ ¬ r.CanBeSent boundary →
      (∃ fault, served.1.reply = .error (.http fault)) ∧ sent = [] ∧ served.2.2 = w) ∧
    (¬ r.HoldsRefusedByte → r.CanBeSent boundary →
      ∃ first rest, sent = first :: rest ∧ r.Sends boundary first ∧
        ∀ q ∈ rest, q.GoesOn [⟨"accept", "*/*"⟩, ⟨"authorization", "Bearer " ++ r.input.apiKey⟩,
          ⟨"x-minerid", r.input.minerId⟩]) := by
  intro served sent
  refine ⟨?_, fun h ↦ ?_, fun hbytes hsent ↦ ?_⟩
  · cases htransfer : (Call.upload r).transfer? boundary with
    | error fault => simp [served, Api.http, htransfer]
    | ok t =>
        obtain ⟨hresult, hstate⟩ := t.run_recorded net [] w
        simp [served, Api.http, htransfer, hresult, hstate]
  · obtain ⟨fault, htransfer⟩ := r.transfer?_eq_error hbase h
    simp [sent, served, Api.http, htransfer, Call.concludeTransfer]
  · obtain ⟨u, hopen, hweb, haddress, htransfer⟩ := r.transfer?_eq_ok hbase hbytes hsent
    have hsendable := UploadRequest.all_isSendable_iff.mpr ⟨hbytes, hsent.2⟩
    have hcarries : (r.transfer boundary u).Carries
        (⟨"accept", "*/*"⟩ :: r.headers boundary) := .first rfl rfl rfl
    obtain ⟨rest, hrun, hrest⟩ := hcarries.run net [] w
    refine ⟨_, rest, ?_, UploadRequest.sends_transfer hopen hweb haddress hsendable, hrest⟩
    simp only [sent, served, Api.http, htransfer, hrun, List.nil_append]

def smallUpload (minerId key : String) : UploadRequest where
  baseUrl := "http://localhost"
  input := ⟨⟨"a.txt", [65]⟩, minerId, key⟩
  metadata := {}

theorem namesNoUser_smallUpload (minerId key : String) :
    (smallUpload minerId key).NamesNoUser := by
  have hbase : (Url.parse? "http://localhost").map Url.userChars = some [] := by decide +kernel
  obtain ⟨base, hparse, huser⟩ := Option.map_eq_some_iff.mp hbase
  simp only [UploadRequest.NamesNoUser, smallUpload, hparse, huser]

theorem canBeSent_smallUpload (minerId key : String) :
    (smallUpload minerId key).CanBeSent "B" := by
  have hopen : (Transfer.openUrl ("http://localhost" ++ dealPath)).toOption.map
      (fun u ↦ u.isWeb && u.isAddress) = some true := by decide +kernel
  obtain ⟨u, hu, hplace⟩ := Option.map_eq_some_iff.mp hopen
  obtain ⟨hweb, haddress⟩ := Bool.and_eq_true_iff.mp hplace
  refine ⟨⟨u, ?_, hweb, haddress⟩, by decide⟩
  cases hresult : Transfer.openUrl ("http://localhost" ++ dealPath) with
  | error fault =>
      rw [hresult] at hu
      cases hu
  | ok v =>
      rw [hresult] at hu
      cases hu
      exact hresult

/-- A line end in the miner keeps an upload back, and a key outside ASCII does not. -/
theorem headers_of_two_uploads :
    let net := ScriptedServer.network.recorded
    let server : ScriptedServer := { host := ScriptedServer.loopback, port := 80 }
    let injected := smallUpload "f01\r\nx-admin: 1" "key"
    let plain := smallUpload "f01" "clé"
    let start := [Utf8.encode "POST /api/v1/deal/end-to-end HTTP/1.1"]
    (Api.http "B" net (.upload injected) ([], server)).2 = ([], server) ∧
      ∃ first rest, (Api.http "B" net (.upload plain) ([], server)).2.1 = first :: rest ∧
        plain.Sends "B" first ∧
        ∃ lines, Wire.cutHead 6
            (Wire.message (start ++ first.headers.map Header.line) (first.body.getD [])) =
              some (lines, Multipart.body "B" plain.parts) ∧
          Utf8.encode "authorization: Bearer clé" ∈ lines := by
  intro net server injected plain start
  have hrefused : injected.HoldsRefusedByte := ⟨13, by decide, Or.inl ⟨by decide, by decide⟩⟩
  have hbytes : ¬ plain.HoldsRefusedByte :=
    UploadRequest.not_holdsRefusedByte.mpr ⟨by decide, by decide⟩
  have hkept := upload_headers_hold_values "B" ScriptedServer.network server injected
    (namesNoUser_smallUpload _ _)
  have hsends := upload_headers_hold_values "B" ScriptedServer.network server plain
    (namesNoUser_smallUpload _ _)
  obtain ⟨first, rest, hsent, hfirst, -⟩ := hsends.2.2 hbytes (canBeSent_smallUpload _ _)
  obtain ⟨-, hnone, hserver⟩ := hkept.2.1 (Or.inl hrefused)
  have hstart : ∀ line ∈ start, Wire.IsUnbroken line :=
    List.forall_mem_singleton.mpr ⟨by decide, by decide, by decide⟩
  obtain ⟨lines, hread, hlines⟩ := hfirst.lines start _ hstart ⟨_, .refl _, rfl⟩ 6 (by decide)
  have hbearer : Utf8.encode "authorization: Bearer clé" =
      Utf8.encode "authorization: Bearer " ++ Utf8.encode plain.input.apiKey :=
    Utf8.encode_append "authorization: Bearer " "clé"
  refine ⟨Prod.ext hnone hserver, first, rest, hsent, hfirst, lines, hread, hlines.mem_iff.mpr ?_⟩
  rw [hbearer]
  exact List.mem_append_right _ (.tail _ (.head _))

end DealForm
