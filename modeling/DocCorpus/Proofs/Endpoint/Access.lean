/-
  Who gets the export. A site that requires a secret has one or does not come about; where there is
  a secret, a request for the export goes on exactly if its header is visible and is the secret,
  byte by byte. Any other request gets one and the same response, for which the collection is not
  read (`export_guarded`).
-/
import DocCorpus.Endpoint
import DocCorpus.Proofs.Outcome
import DocCorpus.Proofs.Text.Encoding

namespace DocCorpus

/-! ## The secret of an environment -/

namespace Site

variable {config : Configuration} {env : List (String × String)} {site : Site}

theorem inEnvironment_eq_ok (h : inEnvironment config env = .ok site) :
    config.exportSecret env = .ok site.policy.secret := by
  obtain ⟨secret, hsecret, hsite⟩ := Outcome.bind_eq_ok_iff.1 h
  obtain ⟨organizer, _, hsite⟩ := Outcome.bind_eq_ok_iff.1 hsite
  injection hsite with hsite
  rw [hsecret, ← hsite]

theorem inEnvironment_of_secretless (hrequired : config.access.requireSecret = true)
    (h : env.lookup config.access.secretEnv = none ∨
      env.lookup config.access.secretEnv = some "") :
    inEnvironment config env = .error (.config (.secretMissing config.access.secretEnv)) := by
  have key : config.exportSecret env =
      .error (.config (.secretMissing config.access.secretEnv)) := by
    unfold Configuration.exportSecret
    rcases h with h | h
    · rw [h, hrequired]
      rfl
    · rw [h, hrequired]
      rfl
  unfold inEnvironment
  rw [key]
  rfl

theorem exists_secret_of_required (hrequired : config.access.requireSecret = true)
    (h : inEnvironment config env = .ok site) :
    ∃ secret, site.policy.secret = some secret ∧ secret ≠ "" := by
  have hsecret := inEnvironment_eq_ok h
  unfold Configuration.exportSecret at hsecret
  rw [hrequired] at hsecret
  split at hsecret
  · next secret _ =>
    split at hsecret
    · next hne =>
      injection hsecret with hsecret
      exact ⟨secret, hsecret.symm, hne⟩
    · cases hsecret
  · cases hsecret

end Site

/-! ## The header of a request -/

theorem ExportPolicy.bytes_inj {s t : String} :
    ExportPolicy.bytes s = ExportPolicy.bytes t ↔ s = t := by
  unfold ExportPolicy.bytes
  rw [Text.toList_inj, Text.toUTF8_inj]

theorem ExportPolicy.allows_iff {p : ExportPolicy} {secret : String} (h : p.secret = some secret)
    (authorization : Option String) :
    p.allows authorization = true ↔ authorization = some secret := by
  unfold ExportPolicy.allows
  rw [h]
  cases authorization with
  | none => simp
  | some given =>
    dsimp only
    rw [ExportPolicy.sameBytes_iff, ExportPolicy.bytes_inj, Option.some.injEq]

namespace Endpoint

variable {site : Site} {secret : String} {r : Request}

/-- A header of visible characters, spaces and tabs. -/
def Visible (header : ByteArray) : Prop :=
  ∀ byte ∈ header.data, byte = 9 ∨ 32 ≤ byte ∧ byte ≤ 126

/-- A request whose header is the secret, and visible. -/
def Presents (secret : String) (r : Request) : Prop :=
  r.authorization = some secret.toUTF8 ∧ Visible secret.toUTF8

/-- A request whose header is absent, or not visible, or another text than the secret. -/
def FailsToPresent (secret : String) (r : Request) : Prop :=
  r.authorization = none ∨ ∃ header, r.authorization = some header ∧
    (¬ Visible header ∨ header.size ≠ secret.toUTF8.size ∨
      ∃ i : Nat, header.data[i]? ≠ secret.toUTF8.data[i]?)

theorem isVisible_iff {byte : UInt8} :
    isVisible byte = true ↔ byte = 9 ∨ 32 ≤ byte ∧ byte ≤ 126 := by
  unfold isVisible
  simp only [Bool.or_eq_true, beq_iff_eq, Bool.and_eq_true, decide_eq_true_eq]
  refine or_congr_right (and_congr_right fun _ => ?_)
  rw [UInt8.lt_iff_toNat_lt, UInt8.le_iff_toNat_le]
  show byte.toNat < 127 ↔ byte.toNat ≤ 126
  omega

theorem all_isVisible_iff {header : ByteArray} :
    header.toList.all isVisible = true ↔ Visible header := by
  simp only [List.all_eq_true, isVisible_iff, Text.toList_eq_data, Visible, Array.mem_toList_iff]

theorem visibleHeader?_eq_some_iff {header : Option ByteArray} {text : String} :
    visibleHeader? header = some text ↔ header = some text.toUTF8 ∧ Visible text.toUTF8 := by
  unfold visibleHeader?
  rw [Option.bind_eq_some_iff]
  constructor
  · rintro ⟨bytes, rfl, h⟩
    split at h
    · next hvisible =>
      rw [Text.fromUTF8?_eq_some_iff.1 h]
      exact ⟨rfl, all_isVisible_iff.1 hvisible⟩
    · cases h
  · rintro ⟨rfl, hvisible⟩
    refine ⟨_, rfl, ?_⟩
    rw [if_pos (all_isVisible_iff.2 hvisible), Text.fromUTF8?_eq_some_iff]

theorem admits_export_iff (hsecret : site.policy.secret = some secret) :
    admits site r .export = true ↔ Presents secret r :=
  (ExportPolicy.allows_iff hsecret _).trans visibleHeader?_eq_some_iff

theorem failsToPresent_iff : FailsToPresent secret r ↔ ¬ Presents secret r := by
  constructor
  · rintro (hnone | ⟨header, hheader, hfail⟩) ⟨hpresent, hvisible⟩
    · rw [hnone] at hpresent
      cases hpresent
    · rw [hheader] at hpresent
      injection hpresent with hpresent
      subst hpresent
      rcases hfail with hfail | hfail | ⟨i, hfail⟩
      · exact hfail hvisible
      · exact hfail rfl
      · exact hfail rfl
  · intro h
    cases hauthorization : r.authorization with
    | none => exact .inl hauthorization
    | some header =>
      refine .inr ⟨header, hauthorization, ?_⟩
      by_cases hbytes : ∀ i : Nat, header.data[i]? = secret.toUTF8.data[i]?
      · have heq : header = secret.toUTF8 := ByteArray.ext (Array.ext_getElem? hbytes)
        rw [heq] at hauthorization ⊢
        exact .inl fun hvisible => h ⟨hauthorization, hvisible⟩
      · exact .inr (.inr (Classical.not_forall.1 hbytes))

/-! ## The answer -/

theorem route?_export : route? "/api/docs.json".toList = some .export := if_pos rfl

/-- A refusal is a response of its own, not one rendered from the collection. -/
theorem answer_of_refused (hsecret : site.policy.secret = some secret)
    (hpath : pathOf r = "/api/docs.json".toList) (h : FailsToPresent secret r) :
    ∃ refusal : Response, answer site r = .ready refusal ∧ refusal.status = 401 ∧
      refusal.contentType = some "text/plain; charset=utf-8" ∧ refusal.body = "Unauthorized" := by
  have hadmits : admits site r .export = false := by
    refine eq_false_of_ne_true fun hadmits => failsToPresent_iff.1 h ?_
    exact (admits_export_iff hsecret).1 hadmits
  unfold answer routed
  rw [hpath, route?_export]
  dsimp only
  rw [hadmits]
  cases isReading r.method
  · exact ⟨Response.unauthorized.naming, rfl, rfl, rfl, rfl⟩
  · exact ⟨.unauthorized, rfl, rfl, rfl, rfl⟩

theorem answer_of_admitted (hsecret : site.policy.secret = some secret)
    (hpath : pathOf r = "/api/docs.json".toList) (h : Presents secret r) :
    answer site r =
      if isReading r.method then content site .export else .ready Response.wrongMethod.naming := by
  unfold answer routed
  rw [hpath, route?_export]
  dsimp only
  rw [(admits_export_iff hsecret).2 h]
  cases isReading r.method <;> rfl

theorem answer_of_open (hpath : pathOf r = "/api/docs.json".toList) :
    answer { site with policy := .anyone } r =
      if isReading r.method then content site .export else .ready Response.wrongMethod.naming := by
  unfold answer routed
  rw [hpath, route?_export]
  cases hmethod : isReading r.method <;> rfl

/-- A site that requires a secret has one, unless it fails for a secret that is unset or empty.
Where there is a secret, a request for the export that does not present it gets the same refusal
whatever the collection is, which is not read; one that does is answered as if there were no
secret. A secret that is not visible is presented by no request. -/
theorem export_guarded :
    (∀ (config : Configuration) (env : List (String × String)),
      config.access.requireSecret = true →
      (env.lookup config.access.secretEnv = none ∨
          env.lookup config.access.secretEnv = some "" →
        Site.inEnvironment config env =
          .error (.config (.secretMissing config.access.secretEnv))) ∧
      ∀ site, Site.inEnvironment config env = .ok site →
        ∃ secret, site.policy.secret = some secret ∧ secret ≠ "") ∧
    ∀ (site : Site) (secret : String) (r : Request), site.policy.secret = some secret →
      pathOf r = "/api/docs.json".toList →
      (FailsToPresent secret r → (answer site r).reads = 0 ∧
        ∀ collection, (respond site collection r).status = 401 ∧
          (respond site collection r).contentType = some "text/plain; charset=utf-8" ∧
          (respond site collection r).body = (if r.method = "HEAD" then "" else "Unauthorized") ∧
          ∀ other, respond site other r = respond site collection r) ∧
      (Presents secret r → answer site r = answer { site with policy := .anyone } r ∧
        (isReading r.method = true → answer site r = content site .export)) ∧
      (¬ Visible secret.toUTF8 → FailsToPresent secret r) := by
  refine ⟨fun config env hrequired => ⟨Site.inEnvironment_of_secretless hrequired,
    fun site => Site.exists_secret_of_required hrequired⟩, fun site secret r hsecret hpath =>
    ⟨fun h => ?_, fun h => ?_, fun h => ?_⟩⟩
  · obtain ⟨refusal, hanswer, hstatus, htype, hbody⟩ := answer_of_refused hsecret hpath h
    unfold respond
    rw [hanswer]
    refine ⟨rfl, fun collection => ?_⟩
    by_cases hmethod : r.method = "HEAD"
    · simp only [if_pos hmethod]
      exact ⟨hstatus, htype, rfl, fun _ => rfl⟩
    · simp only [if_neg hmethod]
      exact ⟨hstatus, htype, hbody, fun _ => rfl⟩
  · rw [answer_of_admitted hsecret hpath h, answer_of_open hpath]
    exact ⟨rfl, fun hmethod => if_pos hmethod⟩
  · exact failsToPresent_iff.2 fun hpresents => h hpresents.2

/-- A site with the secret `abc`, asked with another header of its length and with that one. -/
theorem export_guarded_abc :
    ∃ site, Site.inEnvironment
        { Configuration.default with access := ⟨"EXPORT_ENDPOINT_PASSWORD", true⟩ }
        [("EXPORT_ENDPOINT_PASSWORD", "abc")] = .ok site ∧
      (∃ secret, site.policy.secret = some secret ∧ secret ≠ "") ∧
      (answer site ⟨"/api/docs.json", "GET", some "abd".toUTF8⟩).reads = 0 ∧
      answer site ⟨"/api/docs.json", "GET", some "abc".toUTF8⟩ = content site .export := by
  obtain ⟨site, hsite⟩ : ∃ site, Site.inEnvironment
      { Configuration.default with access := ⟨"EXPORT_ENDPOINT_PASSWORD", true⟩ }
      [("EXPORT_ENDPOINT_PASSWORD", "abc")] = .ok site := ⟨_, rfl⟩
  have hsecret : site.policy.secret = some "abc" := by
    have h := Site.inEnvironment_eq_ok hsite
    injection h with h
    exact h.symm
  refine ⟨site, hsite, (export_guarded.1 _ _ rfl).2 site hsite, ?_, ?_⟩
  · refine ((export_guarded.2 site "abc" _ hsecret rfl).1 (.inr ⟨_, rfl, .inr (.inr ⟨2, ?_⟩)⟩)).1
    decide
  · refine ((export_guarded.2 site "abc" _ hsecret rfl).2.1 ⟨rfl, ?_⟩).2 rfl
    rw [← all_isVisible_iff, Text.toList_eq_data]
    decide

end Endpoint
end DocCorpus
