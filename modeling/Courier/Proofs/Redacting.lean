import Courier.Proofs.Stacking
import Courier.Proofs.Steps
/-
What the log shows of requests that carry credentials. Two requests that differ
in nothing else are logged alike: of the fields that carry credentials only the
names show, as often as they have values (`Headers.redacted_eq`), and the outcome
is logged without the request. The one difference that gets through is the URL,
which the log shows as it is (`Logging.loggingStage_withholds`).
-/
namespace Courier

/-! ## Records -/

/-- The record that a step logs. -/
def Step.logged? : Step → Option LogRecord
  | ⟨.note (.logged record), _⟩ => some record
  | _ => none

/-- What is logged, in order. -/
def Trace.logged (t : Trace) : List LogRecord := t.filterMap Step.logged?

/-- Wherever the truncation is asked for, this is it. -/
def Trace.CutsAt (t : Trace) (truncation : Truncation) : Prop :=
  ∀ reply, ⟨.truncation, reply⟩ ∈ t → reply = truncation

/-- In a world the truncation stays what it is. -/
theorem World.cutsAt_steps (w : World) {α : Type} (act : Act α) :
    (w.steps act).CutsAt w.truncation := by
  induction act generalizing w with
  | done a => exact fun _ hmem => absurd hmem List.not_mem_nil
  | perform e next ih =>
    intro reply hmem
    obtain heq | hmem := List.mem_cons.mp hmem
    · obtain ⟨rfl, heq⟩ := Step.mk.inj heq
      exact eq_of_heq heq
    · exact (ih _ _ reply hmem).trans (w.spares_answer e).truncation

/-! ## Requests that differ in credentials only -/

/-- The fields, with nothing but the number of the values that are credentials. -/
def Headers.veiled (h : Headers) : List (String × List Bytes) :=
  h.fields.map fun field =>
    if field.1 ∈ ["authorization", "proxy-authorization", "cookie"] then
      (field.1, field.2.map fun _ => [])
    else field

/-- The URL without user name and password. -/
def Url.anonymous (u : Url) : Url := { u with username := "", password := "" }

theorem Url.eq_iff_of_anonymous {u v : Url} (h : u.anonymous = v.anonymous) :
    u = v ↔ u.username = v.username ∧ u.password = v.password := by
  cases u
  cases v
  simp_all [anonymous]

/-- The record with the URL without user name and password. -/
def LogRecord.anonymous (record : LogRecord) : LogRecord :=
  { record with url := record.url.anonymous }

/-- What is sent for the one request is sent for the other, but for the values of the fields that
carry credentials and the user name and the password in the URL. -/
structure Request.SameButCredentials (q q' : Request) : Prop where
  method : q.method = q'.method
  url : q.url.anonymous = q'.url.anonymous
  headers : q.headers.veiled = q'.headers.veiled
  body : q.body = q'.body

namespace Logging

/-- What is logged of fields can be told without the credentials. -/
theorem redacted_eq (h : Headers) :
    redacted h = h.veiled.flatMap fun field => field.2.map fun value =>
      (field.1,
        if isSecret field.1 then "[redacted]" else (Header.visible? value).getD "[binary]") := by
  rw [redacted, Headers.pairs, Headers.veiled, List.map_flatMap, List.flatMap_map]
  refine List.flatMap_congr fun field _ => ?_
  rw [List.map_map]
  split
  · next hsecret =>
    have hlogged : isSecret field.1 = true := by
      rw [isSecret, List.contains_iff_mem]
      simp only [List.mem_cons, List.not_mem_nil, or_false] at hsecret ⊢
      tauto
    simp only [List.map_map, Function.comp_def, hlogged, if_true]
  · rfl

/-! ## Records of the stage -/

variable {detail : LogDetail} {truncation : LogTruncation} {cut : Truncation}
  {inner inner' : Service} {q q' : Request} {p p' p₁ p₁' : Progress} {t t' : Trace} {out : Outcome}

/-- The records about an attempt: of the request, and of the outcome. -/
def records (detail : LogDetail) (cut : Truncation) (q : Request) (attempt : Nat) (out : Outcome) :
    List LogRecord :=
  (if detail = .requests then
    [⟨.sending (redacted q.headers) q.body.length, q.method, q.url, attempt⟩]
  else []) ++
    [⟨entry cut out, q.method, q.url, attempt⟩]

/-- `Emits inner q t out own`: in a run in which the service inside comes to the outcome, these are
the records that it does not log itself. -/
def Emits (inner : Service) (q : Request) (t : Trace) (out : Outcome) (own : List LogRecord) :
    Prop :=
  ∃ before within after p₀ p₁, t = before ++ within ++ after ∧
    (inner.call q).Runs p₀ within out p₁ ∧
    own = (before ++ after).logged

/-- Where summaries are cut. -/
def cutOf (shared : Truncation) : LogTruncation → Truncation
  | .shared => shared
  | .own cut => cut

/-- What the stage does before it hands a request on. -/
def opening (detail : LogDetail) (q : Request) (attempt : Nat) : Trace :=
  if detail = .requests then
    [⟨.note (.logged ⟨.sending (redacted q.headers) q.body.length, q.method, q.url, attempt⟩), ()⟩]
  else []

/-- What the stage does with an outcome. A truncation that is shared is asked for. -/
def closing (truncation : LogTruncation) (q : Request) (attempt : Nat) (out : Outcome)
    (cut : Truncation) : Trace :=
  (match truncation with
    | .shared => [⟨.truncation, cut⟩]
    | .own _ => []) ++
        [⟨.note (.logged ⟨entry (cutOf cut truncation) out, q.method, q.url, attempt⟩), ()⟩]

theorem before_runs {attempt : Nat} {u : Unit} :
    (before detail q attempt).Runs p t u p₁ ↔ t = opening detail q attempt ∧ p₁ = p := by
  unfold before opening
  split <;> simp

theorem after_runs {attempt : Nat} {u : Unit} :
    (after truncation q attempt out).Runs p t u p₁ ↔
      (∃ cut, t = closing truncation q attempt out cut) ∧ p₁ = p := by
  cases truncation with
  | own cut' =>
    -- No truncation is asked for, so any will do.
    have hany : Nonempty Truncation := ⟨.default⟩
    simp [after, closing, cutOf]
  | shared =>
    simp only [after, Run.runs_bind, Run.runs_note]
    constructor
    · rintro ⟨t₁, cut, p₀, t₂, rfl, h, rfl, rfl⟩
      obtain ⟨rfl, rfl⟩ := Run.runs_effect.mp h
      exact ⟨⟨cut, rfl⟩, rfl⟩
    · rintro ⟨⟨cut, rfl⟩, rfl⟩
      exact ⟨_, cut, p₁, _, rfl, Run.runs_effect.mpr ⟨rfl, rfl⟩, rfl, rfl⟩

/-- The stage counts its call, and hands the request on between its own steps. -/
theorem loggingStage_runs :
    ((loggingStage detail truncation inner).call q).Runs p t out p₁ ↔ ∃ within cut,
    t = opening detail q (p.calls (inner.height + 1) + 1) ++ within ++
      closing truncation q (p.calls (inner.height + 1) + 1) out cut ∧
    (inner.call q).Runs (p.counted (inner.height + 1)) within out p₁ := by
  rw [loggingStage_call]
  simp only [Run.runs_bind, Run.runs_countCall, before_runs, after_runs, Run.runs_pure]
  constructor
  · rintro ⟨_, _, _, _, rfl, ⟨rfl, rfl, rfl⟩, _, _, _, _, rfl, ⟨rfl, rfl⟩, within, _, _, _, rfl,
      hinner, _, _, _, _, rfl, ⟨⟨cut, rfl⟩, rfl⟩, rfl, rfl, rfl⟩
    exact ⟨within, cut, by simp, hinner⟩
  · rintro ⟨within, cut, rfl, hinner⟩
    exact ⟨[], _, p.counted (inner.height + 1), _, rfl, ⟨rfl, rfl, rfl⟩, _, (), _, _,
      List.append_assoc .., ⟨rfl, rfl⟩, within, out, p₁, _, rfl, hinner, _, (), p₁, [], by simp,
      ⟨⟨cut, rfl⟩, rfl⟩, rfl, rfl, rfl⟩

theorem logged_opening (attempt : Nat) (cut : Truncation) : (opening detail q attempt).logged ++
    (closing truncation q attempt out cut).logged =
      records detail (cutOf cut truncation) q attempt out := by
  unfold opening closing records
  cases truncation <;> split <;> rfl

/-- What the stage logs depends on the request, the number of the attempt and the outcome. -/
theorem loggingStage_emits (hcut : t.CutsAt cut)
    (h : ((loggingStage detail truncation inner).call q).Runs p t out p₁) :
    Emits inner q t out (records detail (cutOf cut truncation) q
      (p.calls (inner.height + 1) + 1) out) := by
  obtain ⟨within, cut', rfl, hinner⟩ := loggingStage_runs.mp h
  refine ⟨_, within, _, _, _, rfl, hinner, ?_⟩
  have hsame : cutOf cut' truncation = cutOf cut truncation := by
    cases truncation with
    | own _ => rfl
    | shared => exact hcut cut' (by simp [closing])
  rw [Trace.logged, List.filterMap_append, ← Trace.logged, ← Trace.logged, logged_opening, hsame]

/-- Credentials make no difference to what is logged but for those in the URL. -/
theorem records_of_sameButCredentials (hq : q.SameButCredentials q') (attempt : Nat) :
    (records detail cut q attempt out).map LogRecord.anonymous =
      (records detail cut q' attempt out).map LogRecord.anonymous ∧
      (records detail cut q attempt out = records detail cut q' attempt out ↔
        q.url.username = q'.url.username ∧ q.url.password = q'.url.password) := by
  have hheaders : redacted q.headers = redacted q'.headers := by
    rw [redacted_eq, redacted_eq, hq.headers]
  rw [← Url.eq_iff_of_anonymous hq.url]
  unfold records
  rw [hheaders, hq.method, hq.body]
  constructor
  · cases detail <;> simp [LogRecord.anonymous, hq.url]
  · cases detail <;> simp

/-- Two requests that differ in credentials only, and that come to the same outcome in attempts of
the same number, are logged alike, at either level: the records differ at most in the user name and
the password in the URL, and they are the same exactly if these are. -/
theorem loggingStage_withholds (hq : q.SameButCredentials q')
    (hcalls : p.calls (inner.height + 1) = p'.calls (inner'.height + 1)) (hcut : t.CutsAt cut)
    (hcut' : t'.CutsAt cut)
    (h : ((loggingStage detail truncation inner).call q).Runs p t out p₁)
    (h' : ((loggingStage detail truncation inner').call q').Runs p' t' out p₁') :
    ∃ own own', Emits inner q t out own ∧ Emits inner' q' t' out own' ∧
      own.map LogRecord.anonymous = own'.map LogRecord.anonymous ∧
      (own = own' ↔ q.url.username = q'.url.username ∧ q.url.password = q'.url.password) := by
  have hemits := loggingStage_emits hcut h
  have hemits' := loggingStage_emits hcut' h'
  rw [← hcalls] at hemits'
  exact ⟨_, _, hemits, hemits', records_of_sameButCredentials hq _⟩

/-- A service that answers everything. -/
def content : Service := .ofTransport fun _ => pure (.ok (.ofStatus 200))

/-- A request of a user, with a token. -/
def visitOf (username password token : String) : Request where
  method := .get
  url := ⟨"https", username, password, some (.domain "api.test"), none, .segments [""], none, none⟩
  headers := ⟨[("accept", [Utf8.encode "*/*"]), ("authorization", [Utf8.encode token])]⟩
  body := []
  options := .empty

theorem visitOf_sameButCredentials (username password token username' password' token' : String) :
    (visitOf username password token).SameButCredentials (visitOf username' password' token') :=
  ⟨rfl, rfl, rfl, rfl⟩

theorem visitOf_runs (username password token : String) : ∃ t p, t.CutsAt .default ∧
    ((loggingStage .requests .shared content).call (visitOf username password token)).Runs .start t
      (.ok (.ofStatus 200)) p := by
  let w : World := .initial .default true .unreachable
  let act := (loggingStage .requests .shared content).call (visitOf username password token) .start
  exact ⟨w.steps act, (w.run act).1.2, w.cutsAt_steps act, w.runs_steps act⟩

/-- Another token makes no difference. -/
theorem loggingStage_withholds_token : ∃ t t' own own',
    Emits content (visitOf "ada" "secret" "Bearer one") t (.ok (.ofStatus 200)) own ∧
    Emits content (visitOf "ada" "secret" "Bearer two") t' (.ok (.ofStatus 200)) own' ∧
      own = own' := by
  obtain ⟨t, p, hcut, hrun⟩ := visitOf_runs "ada" "secret" "Bearer one"
  obtain ⟨t', p', hcut', hrun'⟩ := visitOf_runs "ada" "secret" "Bearer two"
  obtain ⟨own, own', hown, hown', -, hsame⟩ :=
    loggingStage_withholds (visitOf_sameButCredentials ..) rfl hcut hcut' hrun hrun'
  exact ⟨t, t', own, own', hown, hown', hsame.mpr ⟨rfl, rfl⟩⟩

/-- A password in the URL can be read in the log. -/
theorem not_loggingStage_withholds :
    ¬ ∀ (detail : LogDetail) (truncation : LogTruncation) (cut : Truncation) (inner : Service)
    (q q' : Request) (p p' p₁ p₁' : Progress) (t t' : Trace) (out : Outcome)
    (own own' : List LogRecord), q.SameButCredentials q' →
      p.calls (inner.height + 1) = p'.calls (inner.height + 1) →
      t.CutsAt cut → t'.CutsAt cut →
        ((loggingStage detail truncation inner).call q).Runs p t out p₁ →
      ((loggingStage detail truncation inner).call q').Runs p' t' out p₁' →
      Emits inner q t out own → Emits inner q' t' out own' →
        own.map (·.url.text) = own'.map (·.url.text) := by
  intro h
  obtain ⟨t, p, hcut, hrun⟩ := visitOf_runs "ada" "secret" "Bearer one"
  obtain ⟨t', p', hcut', hrun'⟩ := visitOf_runs "" "" "Bearer one"
  have hsame :=
    h _ _ _ _ _ _ _ _ _ _ _ _ _ _ _ (visitOf_sameButCredentials ..) rfl hcut hcut' hrun hrun'
      (loggingStage_emits hcut hrun) (loggingStage_emits hcut' hrun')
  exact absurd hsame (by decide)

end Logging

end Courier
