import QmkHidIdentify.Windows.ServiceCommands

/-!
# QmkHidIdentify.Windows.ServiceInstall

What `service_install` leaves. It goes through the stages of `InstallStage`,
whatever was installed before, and each stage is on the way to the same end. So
it can be repeated after a failure anywhere, which `installs_converge` says of
any number of runs.
-/

namespace QmkHidIdentify

open Program Environment

section Administration

variable {s : System} {service : Handle} {key : WString} {record : ServiceRecord}

/-- The description is set, or nothing is. -/
theorem ensures_startInstalled (hopen : s.handles service = some (.service key))
    (hrecord : s.services key = some record) (fuel : Nat) :
    administration.Ensures s (startInstalled fuel service) fun r s' =>
      s' = s.setService key (some { record with description := SVC_DESC }) ∨
        s' = s ∧ r ≠ .ok () := by
  refine ensures_request ⟨key, hopen⟩ ?_
  intro r s' hanswer
  cases r with
  | false => exact .inr ⟨hanswer, nofun⟩
  | true =>
      obtain ⟨key', record', hopen', hrecord', -, rfl⟩ := hanswer
      obtain rfl : key = key' := by simpa [hopen] using hopen'
      obtain rfl : record = record' := by simpa [hrecord] using hrecord'
      refine ensures_request ⟨key, hopen⟩ ?_
      intro r s' hanswer
      obtain rfl := hanswer
      cases r with
      | ok =>
          refine Ensures.seq (ensures_wait ?_ SERVICE_START_PENDING fuel) ?_ ?_
          · exact ⟨key, hopen⟩
          · exact fun _ _ h => .inl h
          · exact fun _ _ h => .inl h
      | error e =>
          dsimp only
          split
          · exact .inl rfl
          · exact .inl rfl

/-- The service as `service_install` leaves it. -/
def installedRecord (s : System) (description : WString) : ServiceRecord where
  config := serviceConfig (execCommand s.filename)
  description := description
  markedForDelete := false

/-- The states that `service_install` goes through, apart from its handles. -/
inductive InstallStage (s : System) : System → Prop
  | nothing : InstallStage s s
  | eventLog : InstallStage s s.withEventLog
  | configured (description : WString) :
      InstallStage s (s.withEventLog.setService SVC_KEY (some (installedRecord s description)))

/-- The last of these states. -/
def installed (s : System) : System :=
  s.withEventLog.setService SVC_KEY (some (installedRecord s SVC_DESC))

/-- What holds where `service_install` ends: it is at one of its stages, and at the
last if it returns. -/
def InstallEnds (s : System) (r : Except Thrown Unit) (s' : System) : Prop :=
  InstallStage s s' ∧ (r = .ok () → s' = installed s)

/-- With the service configured, the rest of `service_install` in the scope of its
handle. -/
theorem ensures_configured {description : WString} {manager : Handle}
    (hfree : s.handles service = none) (hmanager : s.handles manager = none)
    (hne : manager ≠ service) (fuel : Nat) :
    administration.Ensures ((s.withEventLog.setService SVC_KEY
        (some (installedRecord s description))).managing manager service)
      (startInstalled fuel service) fun r s' =>
      ∃ s₁, s₁.handles service = none ∧ s' = s₁.setHandle service (some (.service SVC_KEY)) ∧
        ∃ s₂, s₂.handles manager = none ∧ s₁ = s₂.setHandle manager (some .manager) ∧
          InstallEnds s r s₂ := by
  have hfree₁ : ∀ d, ((s.withEventLog.setService SVC_KEY (some (installedRecord s d))).setHandle
      manager (some .manager)).handles service = none := by
    intro d
    rw [System.setHandle_handles, if_neg hne.symm]
    exact hfree
  refine (ensures_startInstalled System.managing_service
    (System.managing_services.trans (System.setService_services ..)) fuel).mono ?_
  intro r s' hpost
  rcases hpost with rfl | ⟨rfl, hr⟩
  · refine ⟨_, hfree₁ SVC_DESC, ?_, installed s, hmanager, rfl, .configured SVC_DESC, fun _ => rfl⟩
    rw [System.managing, System.setHandle_setService, System.setHandle_setService,
      System.setService_setService]
    rfl
  · exact ⟨_, hfree₁ description, rfl,
      s.withEventLog.setService SVC_KEY (some (installedRecord s description)), hmanager, rfl,
      .configured description, fun h => absurd h hr⟩

/-- A new handle is not the one of the service control manager. -/
theorem free_handles {manager : Handle}
    (hfree : (s.setHandle manager (some .manager)).handles service = none) :
    manager ≠ service ∧ s.handles service = none := by
  have hne : manager ≠ service := by
    intro he
    subst he
    rw [System.handles_setHandle] at hfree
    cases hfree
  rw [System.setHandle_handles, if_neg hne.symm] at hfree
  exact ⟨hne, hfree⟩

/-- `service_install` in the scope of the service control manager. -/
theorem ensures_managed {manager : Handle} (hmanager : s.handles manager = none) (fuel : Nat) :
    administration.Ensures (s.withEventLog.setHandle manager (some .manager))
      (serviceInstallManaged fuel manager (serviceConfig (execCommand s.filename))) fun r s' =>
        ∃ s₁, s₁.handles manager = none ∧ s' = s₁.setHandle manager (some .manager) ∧
          InstallEnds s r s₁ := by
  have hunchanged : ∃ s₁, s₁.handles manager = none ∧
      s.withEventLog.setHandle manager (some .manager) =
        s₁.setHandle manager (some .manager) ∧ InstallStage s s₁ :=
    ⟨s.withEventLog, hmanager, rfl, .eventLog⟩
  refine ensures_request (System.handles_setHandle ..) ?_
  intro r s' hanswer
  cases r with
  | ok service =>
      obtain ⟨-, hfree, rfl⟩ := hanswer
      have hne := (free_handles hfree).1
      have hservice : s.handles service = none := (free_handles hfree).2
      exact ensures_scope (.inr ⟨_, rfl⟩) (ensures_configured hservice hmanager hne fuel)
  | error e =>
      obtain ⟨rfl, -⟩ := hanswer
      dsimp only
      split
      · refine ensures_request (System.handles_setHandle ..) ?_
        intro r s' hanswer
        cases r with
        | error e =>
            obtain ⟨rfl, -⟩ := hanswer
            obtain ⟨s₁, hfree, hs, hstage⟩ := hunchanged
            exact ⟨s₁, hfree, hs, hstage, nofun⟩
        | ok service =>
            obtain ⟨-, hfree, rfl⟩ := hanswer
            have hne := (free_handles hfree).1
            have hservice : s.handles service = none := (free_handles hfree).2
            refine ensures_scope (.inr ⟨_, rfl⟩) ?_
            refine ensures_request ⟨SVC_KEY, System.handles_setHandle ..⟩ ?_
            intro r s' hanswer
            cases r with
            | false =>
                obtain ⟨s₁, hfree₁, hs, hstage⟩ := hunchanged
                refine ⟨_, hfree, hanswer, s₁, hfree₁, hs, hstage, nofun⟩
            | true =>
                obtain ⟨key, record, hopen, -, hkeep, rfl⟩ := hanswer
                obtain rfl : SVC_KEY = key := by simpa [System.handles_setHandle] using hopen
                have hrecord : (⟨serviceConfig (execCommand s.filename), record.description,
                    record.markedForDelete⟩ : ServiceRecord) =
                      installedRecord s record.description := by
                  rw [hkeep]
                  rfl
                rw [hrecord]
                exact ensures_configured hservice hmanager hne fuel
      · obtain ⟨s₁, hfree, hs, hstage⟩ := hunchanged
        exact ⟨s₁, hfree, hs, hstage, nofun⟩

/-- `service_install` ends at one of its stages. -/
theorem ensures_serviceInstall (s : System) (fuel : Nat) :
    administration.Ensures s (serviceInstall fuel) (InstallEnds s) := by
  refine ensures_currentProcessFilename.seq ?_ ?_
  · intro filename s' h
    obtain ⟨rfl, hfilename⟩ := h
    obtain ⟨rfl, -⟩ := hfilename filename rfl
    refine (ensures_registryAddEventLog s').seq ?_ ?_
    · intro _ s₁ h
      obtain rfl := h.2
      refine ensures_request trivial ?_
      intro r s₁ hanswer
      cases r with
      | none =>
          obtain rfl := hanswer
          exact ⟨.eventLog, nofun⟩
      | some manager =>
          obtain ⟨hfree, rfl⟩ := hanswer
          have hmanager : s'.handles manager = none := hfree
          exact ensures_scope (.inl rfl) (ensures_managed hmanager fuel)
    · intro e s₁ h
      obtain rfl := h.2
      exact ⟨.nothing, nofun⟩
  · intro e s' h
    obtain ⟨rfl, -⟩ := h
    exact ⟨.nothing, nofun⟩

end Administration

section Succeeding

variable {s : System} {t key : Handle}

/-- What a service answers that is running. -/
def runningStatus : SizedCalls ServiceStatusProcess :=
  ⟨false, true, 36, true, some ⟨SERVICE_RUNNING, 0, 0⟩⟩

theorem returns_startInstalled {service : Handle}
    (hopen : s.handles service = some (.service SVC_KEY))
    (hkeep : ∃ record, s.services SVC_KEY = some record ∧ record.markedForDelete = false)
    (fuel : Nat) : administration.Returns s (startInstalled (fuel + 1) service) (.ok ()) := by
  obtain ⟨record, hrecord, hkeep⟩ := hkeep
  refine returns_request.mpr ⟨true, _, ⟨SVC_KEY, record, hopen, hrecord, hkeep, rfl⟩, ?_⟩
  refine returns_request.mpr ⟨.ok (), _, rfl, ?_⟩
  refine returns_request.mpr ⟨runningStatus, _, rfl, ?_⟩
  refine returns_request.mpr ⟨0, _, rfl, ?_⟩
  exact ⟨_, .done _ _⟩

/-- `service_install` can succeed, unless the service is marked for deletion. -/
theorem returns_serviceInstall (hpath : s.path ≠ []) (hlength : s.path.length ≠ 122)
    (ht : s.handles t = none) (hkey : s.handles key = none) (hne : t ≠ key)
    (hkeep : ∀ record, s.services SVC_KEY = some record → record.markedForDelete = false)
    (fuel : Nat) : administration.Returns s (serviceInstall (fuel + 1)) (.ok ()) := by
  refine (ends_currentProcessFilename hpath hlength).returns_seq ?_
  refine (ends_registryAddEventLog hpath hlength ht hkey hne).returns_seq ?_
  have hfree : (s.withEventLog.setHandle t (some .manager)).handles key = none := by
    rw [System.setHandle_handles, if_neg hne.symm]
    exact hkey
  refine returns_request.mpr ⟨some t, _, ⟨ht, rfl⟩, returns_wrapped ?_⟩
  cases hservice : s.services SVC_KEY with
  | none =>
      refine returns_request.mpr ⟨.ok key, _, ⟨hservice, hfree, rfl⟩, returns_wrapped ?_⟩
      refine returns_startInstalled (System.handles_setHandle ..) ?_ fuel
      exact ⟨_, (congrFun (System.setHandle_services ..) _).trans
        (System.setService_services ..), rfl⟩
  | some record =>
      have hexists : (s.services SVC_KEY).isSome = true := by simp [hservice]
      refine returns_request.mpr ⟨.error ERROR_SERVICE_EXISTS, _, ⟨rfl, fun _ => hexists⟩, ?_⟩
      refine returns_request.mpr ⟨.ok key, _, ⟨hexists, hfree, rfl⟩, returns_wrapped ?_⟩
      have hunmarked := hkeep record hservice
      refine returns_request.mpr ⟨true, _, ⟨SVC_KEY, record, System.handles_setHandle ..,
        hservice, hunmarked, rfl⟩, ?_⟩
      refine returns_startInstalled ?_ ⟨_, System.setService_services .., ?_⟩ fuel
      · exact System.handles_setHandle ..
      · exact hunmarked

end Succeeding

/-! ### Installing again -/

theorem eventLogValues_idem (filename : WString) (values : RegKey) :
    eventLogValues filename (eventLogValues filename values) =
      eventLogValues filename values := by
  funext name
  simp only [eventLogValues, Function.update_apply]
  split_ifs <;> rfl

@[simp] theorem withEventLog_withEventLog (s : System) :
    s.withEventLog.withEventLog = s.withEventLog := by
  have hagain : s.withEventLog.withEventLog.registry = s.withEventLog.registry := by
    rw [System.withEventLog, System.registry_withEventLog, Option.getD_some]
    simp only [System.withEventLog, Function.update_idem]
    exact congrArg (fun values => Function.update s.registry LOG_REG_HLKM_KEY (some values))
      (eventLogValues_idem s.filename _)
  exact congrArg (fun registry => { s with registry := registry }) hagain

/-- Runs of `service_install` one after another, with how each of them ends. -/
inductive RunInstalls (s : System) : List (Except Thrown Unit) → System → Prop
  | nil : RunInstalls s [] s
  | snoc {s₁ s' : System} {log : List (Except Thrown Unit)} (hlog : RunInstalls s log s₁)
      (fuel : Nat) (r : Except Thrown Unit)
      (h : (administration.running (serviceInstall fuel).run s₁).Reachable (.done r, s')) :
      RunInstalls s (log ++ [r]) s'

section Installs

variable {s s' s'' : System} {log : List (Except Thrown Unit)}

theorem InstallStage.handles (h : InstallStage s s') : s'.handles = s.handles := by
  cases h <;> rfl

/-- Each stage is on the way to the same end. -/
theorem InstallStage.installed (h : InstallStage s s') : installed s' = installed s := by
  cases h with
  | nothing => rfl
  | eventLog => rw [QmkHidIdentify.installed, withEventLog_withEventLog]; rfl
  | configured description =>
      have hagain : (s.withEventLog.setService SVC_KEY
          (some (installedRecord s description))).withEventLog =
            s.withEventLog.withEventLog.setService SVC_KEY
              (some (installedRecord s description)) := rfl
      rw [QmkHidIdentify.installed, hagain, withEventLog_withEventLog,
        System.setService_setService]
      rfl

theorem InstallStage.trans (h : InstallStage s s') (h' : InstallStage s' s'') :
    InstallStage s s'' := by
  cases h with
  | nothing => exact h'
  | eventLog =>
      cases h' with
      | nothing => exact .eventLog
      | eventLog =>
          rw [withEventLog_withEventLog]
          exact .eventLog
      | configured description' =>
          rw [withEventLog_withEventLog]
          exact .configured description'
  | configured description =>
      have hagain : (s.withEventLog.setService SVC_KEY
          (some (installedRecord s description))).withEventLog =
            s.withEventLog.setService SVC_KEY (some (installedRecord s description)) :=
        congrArg (fun s₁ : System => s₁.setService SVC_KEY (some (installedRecord s description)))
          (withEventLog_withEventLog s)
      cases h' with
      | nothing => exact .configured description
      | eventLog =>
          rw [hagain]
          exact .configured description
      | configured description' =>
          rw [hagain, System.setService_setService]
          exact .configured description'

end Installs

/-! ### Starting the service -/

/-- A quoted part without quotes that does not end in a backslash. -/
theorem eval_quotedPart {n : Nat} {text part : WString} (hquote : argChars.quote ∉ part)
    (hempty : part = [] → n = 0) (hlast : part.getLast? ≠ some argChars.backslash)
    (tail : WString) :
    argChars.splitter.eval (.inArg (.quoted n) text) (part ++ argChars.quote :: tail) =
      argChars.splitter.eval
        (.inArg .closed (text ++ List.replicate n argChars.backslash ++ part)) tail := by
  induction part generalizing n text with
  | nil =>
      obtain rfl := hempty rfl
      rw [List.nil_append, argChars.eval_quote_even (Nat.zero_mod 2)]
      simp
  | cons c part ih =>
      rw [List.mem_cons, not_or] at hquote
      obtain ⟨hc, hpart⟩ := hquote
      have hlast' : part.getLast? ≠ some argChars.backslash := by
        intro he
        cases part with
        | nil => cases he
        | cons d part => exact hlast (by rw [List.getLast?_cons_cons]; exact he)
      rw [List.cons_append]
      by_cases hslash : c = argChars.backslash
      · subst hslash
        have hne : part ≠ [] := by
          intro he
          subst he
          exact hlast rfl
        rw [argChars.eval_backslash, ih hpart (fun he => absurd he hne) hlast']
        simp [List.replicate_succ']
      · rw [argChars.eval_literal hslash (Ne.symm hc), ih hpart (fun _ => rfl) hlast']
        simp

/-- The command line of the service is split into the file and the command. -/
theorem splitCommandLine_execCommand {filename : WString} (hquote : argChars.quote ∉ filename)
    (hlast : filename.getLast? ≠ some argChars.backslash) :
    splitCommandLine (execCommand filename) = [filename, wide "service"] := by
  have hcommand : execCommand filename =
      argChars.quote :: (filename ++ argChars.quote :: argChars.space :: wide "service") := by
    simp [execCommand, wide, argChars]
  rw [splitCommandLine, hcommand, ArgChars.split, argChars.eval_open,
    eval_quotedPart hquote (fun _ => rfl) hlast, argChars.eval_closed_blank argChars.isBlank_space]
  have hservice : argChars.splitter.eval .between (wide "service") = [wide "service"] := by decide
  simp [hservice]

/-- The file name has no NUL, so the command line is passed on in full. -/
theorem cStr_execCommand (s : System) :
    (execCommand s.filename).cStr = execCommand s.filename := by
  refine List.takeWhile_eq_self_iff.mpr ?_
  intro c hc
  rw [execCommand, List.mem_append, List.mem_append] at hc
  have hends : ∀ c ∈ wide "\"" ++ wide "\" service", decide (c ≠ 0) = true :=
    List.all_eq_true.mp (by decide)
  rcases hc with (hc | hc) | hc
  · exact hends c (List.mem_append_left _ hc)
  · rw [System.filename, WString.cStr] at hc
    have hne := List.mem_takeWhile_imp hc
    exact hne
  · exact hends c (List.mem_append_right _ hc)

/-- What the service control manager starts for a service that is installed. -/
theorem wmain_execCommand {filename : WString} (hquote : argChars.quote ∉ filename)
    (hlast : filename.getLast? ≠ some argChars.backslash) (system : MainSystem) :
    wmain system (splitCommandLine (execCommand filename)) = exitCode (system.call .service) := by
  have hfind : findCommand [filename, wide "service"] =
      some (wide "service", ⟨.service, false⟩) := by
    rw [findCommand]
    decide
  rw [splitCommandLine_execCommand hquote hlast, wmain, hfind]
  simp

section Installs

variable {s s' : System} {log : List (Except Thrown Unit)}

/-- **Installing again** after any number of installations that failed anywhere
leaves what one installation would have left: the service record does not depend
on what was there before, its command line starts the command `service`, and no
handle is left open. -/
theorem installs_converge (h : RunInstalls s log s') :
    InstallStage s s' ∧ s'.handles = s.handles ∧
      (log.getLast? = some (.ok ()) → s' = installed s ∧
        (argChars.quote ∉ s.filename → s.filename.getLast? ≠ some argChars.backslash →
          ∀ system : MainSystem, ∃ record, s'.services SVC_KEY = some record ∧
            wmain system (splitCommandLine record.config.binaryPathName) =
              exitCode (system.call .service))) := by
  induction h with
  | nil => exact ⟨.nothing, rfl, nofun⟩
  | snoc hlog fuel r hrun ih =>
      obtain ⟨hstage, -, -⟩ := ih
      obtain ⟨hstage', hok⟩ := (ensures_serviceInstall _ fuel).ends administration_alone hrun
      refine ⟨hstage.trans hstage', (hstage.trans hstage').handles, ?_⟩
      intro hlast
      rw [List.getLast?_concat, Option.some.injEq] at hlast
      have hinstalled : _ = installed s := (hok hlast).trans hstage.installed
      refine ⟨hinstalled, ?_⟩
      intro hquote hslash system
      refine ⟨installedRecord s SVC_DESC, ?_, ?_⟩
      · rw [hinstalled]
        exact System.setService_services ..
      · rw [← wmain_execCommand hquote hslash system, ← cStr_execCommand s]
        rfl

end Installs

/-- The first installation does not get the name of its file, the second one
succeeds. -/
theorem installs_converge_again :
    ∃ s', RunInstalls emptySystem [.error (.win32 "GetModuleFileName"), .ok ()] s' ∧
      s' = installed emptySystem := by
  have hfails : administration.Ends (serviceInstall 0).run emptySystem
      (.error (.win32 "GetModuleFileName")) emptySystem :=
    .call ⟨0, []⟩ ⟨rfl, .inl rfl⟩ <| .done _ _
  obtain ⟨s', hends⟩ := returns_serviceInstall (s := emptySystem) (by decide) (by decide) rfl rfl
    (by decide : (0 : Handle) ≠ 1) nofun 0
  have hruns : RunInstalls emptySystem [.error (.win32 "GetModuleFileName"), .ok ()] s' :=
    .snoc (.snoc .nil 0 _ hfails.reachable) 1 _ hends.reachable
  exact ⟨s', hruns, ((installs_converge hruns).2.2 rfl).1⟩

end QmkHidIdentify
