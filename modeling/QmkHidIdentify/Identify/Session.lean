import QmkHidIdentify.Linux.HidIdentify
import QmkHidIdentify.Windows.HidIdentify

/-!
# QmkHidIdentify.Identify.Session

Sequences of `open()`, `identify()` and `close()` on one object.

A **session** is the part of the trace since a handle was opened. The object is
`Complete` when it holds a handle and its members come from the one device info
query and the one descriptor query of the session. The invariant `DeviceInv`
says that an object is complete or has no reports. It is proved once, for every
class with the few properties of `Lawful`, and the two platforms are shown to
have them. From it follow

* `sent_gated`: a message is only sent when the session has passed every gate;
* `open_complete_iff`: `open()` leaves a complete object as long as it is not
  called after an `identify()` that failed between the two queries.
-/

namespace QmkHidIdentify

/-! ### Sessions -/

namespace OsEvent

variable {I D : Type}

/-- A handle is held. -/
def held : List (OsEvent I D) → Bool
  | [] => false
  | .opened :: _ => true
  | .closed :: _ => false
  | _ :: tr => held tr

/-- The device info read in the session, latest first. -/
def infos : List (OsEvent I D) → List I
  | [] => []
  | .opened :: _ => []
  | .closed :: _ => []
  | .info i :: tr => i :: infos tr
  | _ :: tr => infos tr

/-- The descriptors read in the session, latest first. -/
def descriptors : List (OsEvent I D) → List D
  | [] => []
  | .opened :: _ => []
  | .closed :: _ => []
  | .descriptor c :: tr => c :: descriptors tr
  | _ :: tr => descriptors tr

end OsEvent

open OsEvent

/-- What the members of an object mean in terms of the queries of a platform. -/
structure Decoding (I D : Type) where
  info : I → USBDeviceInfo → Prop
  reports : D → List HIDReport → Prop

section Generic

variable {I D P S T : Type}

/-- The object is fully initialised: it holds a handle, and its members are what
the two queries on that handle returned. -/
structure Complete (dec : Decoding I D) (d : Device I D P) : Prop where
  handle : d.handle = true
  held : held d.trace = true
  info : ∃ i, infos d.trace = [i] ∧ dec.info i d.deviceInfo
  reports : ∃ c, descriptors d.trace = [c] ∧ dec.reports c d.reports

/-- A handle is held on which no descriptor has been read. -/
def HalfOpen (d : Device I D P) : Prop := d.handle = true ∧ descriptors d.trace = []

/-- How a platform `open` without a handle may end. -/
inductive OpenOutcome (dec : Decoding I D) (d : Device I D P) : Returned I D P → Prop
  /-- there is no handle -/
  | unavailable (e : Exception) : OpenOutcome dec d (.error e, d)
  /-- a query failed, with no descriptor read -/
  | half (e : Exception) (d' : Device I D P) (is : List I) (handle : d'.handle = true)
      (trace : d'.trace = is.map .info ++ .opened :: d.trace) (reports : d'.reports = d.reports) :
      OpenOutcome dec d (.error e, d')
  /-- both queries succeeded -/
  | complete (d' : Device I D P) (i : I) (c : D) (rs : List HIDReport) (handle : d'.handle = true)
      (trace : d'.trace = .descriptor c :: .info i :: .opened :: d.trace)
      (info : dec.info i d'.deviceInfo) (decodes : dec.reports c rs)
      (reports : d'.reports = d.reports ++ rs) : OpenOutcome dec d (.ok (), d')

/-- What the base class relies on in a platform class. -/
structure Lawful (C : DeviceClass I D P S T) (dec : Decoding I D) : Prop where
  open_held : ∀ s d r, d.handle = true → (C.openPlatform s d r ↔ r = (.ok (), d))
  open_free : ∀ s d r, d.handle = false → C.openPlatform s d r → OpenOutcome dec d r
  send : ∀ t data d, (C.sendPlatform t data d).2 = d ∨
    ∃ buffer, (C.sendPlatform t data d).2 = d.record (.written buffer)
  reset : ∀ d, ∃ own, C.reset d = { d.release with own := own }

/-! ### Calls -/

/-- The public calls, with the outcomes of their system calls. -/
inductive Call (S T : Type)
  | open (s : S)
  | identify (s : S) (t : T)
  | close

/-- A public call and its result. -/
def DeviceClass.call (C : DeviceClass I D P S T) :
    Call S T → Device I D P → Returned I D P → Prop
  | .open s, d, r => C.openDevice s d r
  | .identify s t, d, r => C.identify s t d r
  | .close, d, r => r = (.ok (), C.close d)

/-- A sequence of calls that have all returned or thrown. -/
inductive Session (C : DeviceClass I D P S T) (d₀ : Device I D P) :
    List (Call S T) → Device I D P → Prop
  | nil : Session C d₀ [] d₀
  | snoc {calls : List (Call S T)} {d d' : Device I D P} {c : Call S T}
      {result : Except Exception Unit} :
      Session C d₀ calls d → C.call c d (result, d') → Session C d₀ (calls ++ [c]) d'

/-- A new object. `device_info_` has no initial value. -/
def Device.new (info : USBDeviceInfo) (own : P) : Device I D P := { deviceInfo := info, own := own }

/-! ### The invariant -/

/-- Every gate is passed at a `.sent data` that follows `older`. -/
structure Gated (C : DeviceClass I D P S T) (dec : Decoding I D) (older : List (OsEvent I D))
    (data : List UInt8) : Prop where
  held : held older = true
  info : ∃ i info, infos older = [i] ∧ dec.info i info ∧ info.allowed = true
  reports : ∃ c rs n, descriptors older = [c] ∧ dec.reports c rs ∧ firstRawCount rs = some n ∧
    sendReport C.platform n = .ok data

/-- Every message in the trace was sent through the gates. -/
def AllGated (C : DeviceClass I D P S T) (dec : Decoding I D) (tr : List (OsEvent I D)) : Prop :=
  ∀ newer data older, tr = newer ++ .sent data :: older → Gated C dec older data

/-- An object between calls: it is complete, or nothing has been read into
`reports_` in this session. -/
structure DeviceInv (C : DeviceClass I D P S T) (dec : Decoding I D) (d : Device I D P) :
    Prop where
  held : held d.trace = d.handle
  init : d.reports = [] ∧ descriptors d.trace = [] ∨ Complete dec d
  gated : AllGated C dec d.trace

variable {C : DeviceClass I D P S T} {dec : Decoding I D} {d d' : Device I D P}

theorem allGated_cons {e : OsEvent I D} {tr : List (OsEvent I D)} :
    AllGated C dec (e :: tr) ↔ (∀ data, e = .sent data → Gated C dec tr data) ∧
      AllGated C dec tr := by
  refine ⟨?_, ?_⟩
  · intro h
    refine ⟨fun data he => h [] data tr (by simp [he]), ?_⟩
    intro newer data older htr
    exact h (e :: newer) data older (by simp [htr])
  · intro h newer data older htr
    obtain ⟨hhead, htail⟩ := h
    cases newer with
    | nil =>
        obtain ⟨rfl, rfl⟩ := by simpa using htr
        exact hhead data rfl
    | cons e' newer =>
        obtain ⟨rfl, rfl⟩ := by simpa using htr
        exact htail newer data older rfl

/-- Device info events alone change neither the handle nor the descriptors. -/
theorem infos_append (C : DeviceClass I D P S T) (dec : Decoding I D) (is : List I)
    (tr : List (OsEvent I D)) :
    held (is.map .info ++ tr) = held tr ∧ descriptors (is.map .info ++ tr) = descriptors tr ∧
      (AllGated C dec (is.map .info ++ tr) ↔ AllGated C dec tr) := by
  induction is with
  | nil => exact ⟨rfl, rfl, Iff.rfl⟩
  | cons i is ih =>
      refine ⟨ih.1, ih.2.1, ?_⟩
      rw [List.map_cons, List.cons_append, allGated_cons, ih.2.2]
      simp

theorem DeviceInv.new (info : USBDeviceInfo) (own : P) :
    DeviceInv C dec (Device.new info own) :=
  ⟨rfl, .inl ⟨rfl, rfl⟩, fun newer data older h => by simp [Device.new] at h⟩

theorem Complete.congr (h : Complete dec d) (htrace : d'.trace = d.trace)
    (hhandle : d'.handle = d.handle) (hinfo : d'.deviceInfo = d.deviceInfo)
    (hreports : d'.reports = d.reports) : Complete dec d' := by
  obtain ⟨hh, ht, hi, hr⟩ := h
  refine ⟨by rw [hhandle, hh], by rw [htrace, ht], ?_, ?_⟩
  · rw [htrace, hinfo]
    exact hi
  · rw [htrace, hreports]
    exact hr

/-- The members may change as long as trace, handle, device info and reports
stay. -/
theorem DeviceInv.congr (h : DeviceInv C dec d) (htrace : d'.trace = d.trace)
    (hhandle : d'.handle = d.handle) (hinfo : d'.deviceInfo = d.deviceInfo)
    (hreports : d'.reports = d.reports) : DeviceInv C dec d' := by
  refine ⟨by rw [htrace, hhandle, h.held], ?_, by rw [htrace]; exact h.gated⟩
  rw [hreports, htrace]
  exact h.init.imp_right fun hc => hc.congr htrace hhandle hinfo hreports

/-- Without a handle nothing has been read. -/
theorem DeviceInv.fresh (h : DeviceInv C dec d) (hhandle : d.handle = false) :
    d.reports = [] ∧ descriptors d.trace = [] := by
  rcases h.init with hnone | hcomplete
  · exact hnone
  · exact absurd hcomplete.handle (by simp [hhandle])

/-- After a platform `open` the invariant holds, and one that returns normally
leaves a complete object unless it found a half open one. -/
theorem DeviceInv.openPlatform (hC : Lawful C dec) (h : DeviceInv C dec d) {s : S}
    {result : Except Exception Unit} (hopen : C.openPlatform s d (result, d')) :
    DeviceInv C dec d' ∧ (result = .ok () → ¬ HalfOpen d → Complete dec d') := by
  cases hhandle : d.handle with
  | true =>
      obtain ⟨rfl, rfl⟩ := by simpa using (hC.open_held s d _ hhandle).mp hopen
      refine ⟨h, ?_⟩
      intro _ hhalf
      rcases h.init with ⟨-, hnone⟩ | hcomplete
      · exact absurd ⟨hhandle, hnone⟩ hhalf
      · exact hcomplete
  | false =>
      have hfresh := (h.fresh hhandle).1
      have houtcome := hC.open_free s d _ hhandle hopen
      generalize hr : (result, d') = r at houtcome
      cases houtcome with
      | unavailable e =>
          obtain ⟨rfl, rfl⟩ := by simpa using hr
          exact ⟨h, by simp⟩
      | half e d₁ is handle trace reports =>
          obtain ⟨rfl, rfl⟩ := by simpa using hr
          obtain ⟨hheld, hdesc, hgated⟩ :=
            infos_append C dec is (.opened :: d.trace)
          refine ⟨⟨?_, .inl ⟨by rw [reports, hfresh], ?_⟩, ?_⟩, by simp⟩
          · rw [trace, hheld, handle]
            rfl
          · rw [trace, hdesc]
            rfl
          · rw [trace, hgated, allGated_cons]
            exact ⟨by simp, h.gated⟩
      | complete d₁ i c rs handle trace info decodes reports =>
          obtain ⟨rfl, rfl⟩ := by simpa using hr
          have hcomplete : Complete dec d' := by
            refine ⟨handle, by rw [trace]; rfl, ⟨i, by rw [trace]; rfl, info⟩,
              ⟨c, by rw [trace]; rfl, ?_⟩⟩
            rw [reports, hfresh, List.nil_append]
            exact decodes
          refine ⟨⟨by rw [hcomplete.held, handle], .inr hcomplete, ?_⟩, fun _ _ => hcomplete⟩
          rw [trace, allGated_cons, allGated_cons, allGated_cons]
          exact ⟨by simp, by simp, by simp, h.gated⟩

/-- A closed object is as good as new. -/
theorem DeviceInv.close (hC : Lawful C dec) (h : DeviceInv C dec d) :
    DeviceInv C dec (C.close d) := by
  obtain ⟨own, hreset⟩ := hC.reset { d with deviceInfo := {}, reports := [], reportCount := 0 }
  rw [DeviceClass.close, hreset]
  cases hhandle : d.handle with
  | true =>
      refine ⟨by simp [Device.release, OsEvent.held], .inl ⟨by simp [Device.release], ?_⟩, ?_⟩
      · simp [Device.release, descriptors]
      · simpa [Device.release, allGated_cons] using h.gated
  | false =>
      have hnone := (h.fresh hhandle).2
      have hheld := h.held
      refine ⟨by simp [Device.release, hhandle, hheld], .inl ⟨by simp [Device.release], ?_⟩, ?_⟩
      · simp [Device.release, hnone]
      · simpa [Device.release] using h.gated

/-- `identify()` after its platform `open`: only a complete object gets past the
reports, and what is sent is gated. -/
theorem DeviceInv.identifyOpened (hC : Lawful C dec) (h : DeviceInv C dec d) (t : T) :
    DeviceInv C dec (C.identifyOpened t d).2 := by
  obtain ⟨count, hresult⟩ := C.identifyOpened_eq t d
  rw [hresult]
  cases hmessage : identifyMessage C.platform d.deviceInfo d.reports with
  | error e => exact h.congr rfl rfl rfl rfl
  | ok data =>
      obtain ⟨hallowed, n, hcount, hdata⟩ := identifyMessage_ok hmessage
      have hcomplete : Complete dec d := by
        rcases h.init with ⟨hnone, -⟩ | hcomplete
        · simp [hnone, firstRawCount] at hcount
        · exact hcomplete
      obtain ⟨i, hinfos, hinfo⟩ := hcomplete.info
      obtain ⟨c, hdescs, hreports⟩ := hcomplete.reports
      have hgated : Gated C dec d.trace data :=
        ⟨hcomplete.held, ⟨i, _, hinfos, hinfo, hallowed⟩,
          ⟨c, _, n, hdescs, hreports, hcount, hdata⟩⟩
      have hsent : DeviceInv C dec ({ d with reportCount := count }.record (.sent data)) := by
        refine ⟨h.held, .inr ⟨hcomplete.handle, hcomplete.held, hcomplete.info,
          hcomplete.reports⟩, ?_⟩
        rw [Device.record_trace, allGated_cons]
        exact ⟨by simpa using hgated, h.gated⟩
      rcases hC.send t data ({ d with reportCount := count }.record (.sent data)) with
        hsame | ⟨buffer, hwritten⟩
      · simp only [hsame]
        exact hsent
      · simp only [hwritten]
        refine ⟨hsent.held, ?_, ?_⟩
        · refine hsent.init.imp_right fun hc => ⟨hc.handle, hc.held, hc.info, hc.reports⟩
        · rw [Device.record_trace, allGated_cons]
          exact ⟨by simp, hsent.gated⟩

/-- Every public call keeps the invariant. -/
theorem DeviceInv.call (hC : Lawful C dec) (h : DeviceInv C dec d) {c : Call S T}
    {result : Except Exception Unit} (hcall : C.call c d (result, d')) : DeviceInv C dec d' := by
  cases c with
  | «open» s =>
      obtain ⟨opened, d₁, hopen, hr⟩ := hcall
      have hinv := (h.openPlatform hC hopen).1
      cases opened with
      | ok =>
          obtain ⟨-, rfl⟩ := by simpa using hr
          exact hinv
      | error e =>
          obtain ⟨-, rfl⟩ := by simpa using hr
          exact hinv.close hC
  | identify s t =>
      obtain ⟨opened, d₁, hopen, hr⟩ := hcall
      have hinv := (h.openPlatform hC hopen).1
      cases opened with
      | ok =>
          have hinv' := hinv.identifyOpened hC t
          rwa [← show (result, d') = C.identifyOpened t d₁ from hr] at hinv'
      | error e =>
          obtain ⟨-, rfl⟩ := by simpa using hr
          exact hinv
  | close =>
      obtain ⟨-, rfl⟩ := Prod.mk.inj (show (result, d') = (.ok (), C.close d) from hcall)
      exact h.close hC

theorem Session.inv (hC : Lawful C dec) {info : USBDeviceInfo} {own : P} {calls : List (Call S T)}
    (h : Session C (Device.new info own) calls d) : DeviceInv C dec d := by
  induction h with
  | nil => exact DeviceInv.new info own
  | snoc _ hcall ih => exact ih.call hC hcall

/-- `open()` leaves a complete object exactly if it was not half open. -/
theorem DeviceInv.open_iff (hC : Lawful C dec) (h : DeviceInv C dec d) (s : S) :
    (∀ d', C.openDevice s d (.ok (), d') → Complete dec d') ↔ ¬ HalfOpen d := by
  refine ⟨?_, ?_⟩
  · intro hall hhalf
    have hopen : C.openDevice s d (.ok (), d) :=
      ⟨.ok (), d, (hC.open_held s d _ hhalf.1).mpr rfl, rfl⟩
    obtain ⟨c, hc, -⟩ := (hall d hopen).reports
    rw [hhalf.2] at hc
    cases hc
  · intro hhalf d' hcall
    obtain ⟨result, d₁, hopen, hr⟩ := hcall
    cases result with
    | ok =>
        obtain rfl : d' = d₁ := by simpa using hr
        exact (h.openPlatform hC hopen).2 rfl hhalf
    | error e => simp at hr

theorem openCalls_iff (hC : Lawful C dec) {info : USBDeviceInfo} {own : P}
    {calls : List (Call S T)} :
    (∀ pre s post d d', calls = pre ++ .open s :: post → Session C (Device.new info own) pre d →
        C.openDevice s d (.ok (), d') → Complete dec d') ↔
      ∀ pre s post d, calls = pre ++ .open s :: post → Session C (Device.new info own) pre d →
        ¬ HalfOpen d := by
  refine ⟨?_, ?_⟩
  · intro hall pre s post d hcalls hsession
    exact ((hsession.inv hC).open_iff hC s).mp fun d' => hall pre s post d d' hcalls hsession
  · intro hall pre s post d d' hcalls hsession
    exact ((hsession.inv hC).open_iff hC s).mpr (hall pre s post d hcalls hsession) d'

end Generic

/-! ### The platforms -/

namespace LinuxHIDDevice

/-- The members are the values of the queries; the reports are what the loop of
`init_reports` leaves on an empty vector. -/
def decoding : Decoding HidrawDevinfo HidrawDescriptor where
  info i info := info = deviceInfo i
  reports c rs := InitReports c [] (.ok (), rs)

/-- `init_reports` after the device info: it fails before the descriptor is read,
or the loop leaves one report more. -/
theorem initReports_outcome {s : HidrawCalls} {d : LinuxHIDDevice} {r : LinuxReturned}
    (h : initReports s d r) :
    (∃ e, r = (.error e, d)) ∨ ∃ c rs, decoding.reports c rs ∧
      r = (.ok (), { d with reports := d.reports ++ rs }.record (.descriptor c)) := by
  unfold initReports at h
  split at h
  · exact .inl ⟨_, h⟩
  · split_ifs at h
    · exact .inl ⟨_, h⟩
    · exact .inl ⟨_, h⟩
    · split at h
      · exact .inl ⟨_, h⟩
      · obtain ⟨result, reports, hloop, rfl⟩ := h
        obtain ⟨report, rest, heval, hr⟩ := (initReports_iff _ _ _).mp hloop
        obtain ⟨rfl, rfl⟩ := Prod.mk.inj hr
        exact .inr ⟨_, [report], (initReports_iff _ _ _).mpr ⟨report, rest, heval, rfl⟩, rfl⟩

theorem openPlatform_outcome {s : HidrawCalls} {d : LinuxHIDDevice} {r : LinuxReturned}
    (hhandle : d.handle = false) (h : openPlatform s d r) : OpenOutcome decoding d r := by
  rw [openPlatform, hhandle, if_neg (by decide)] at h
  split at h
  · subst h
    exact .unavailable _
  · cases hinfo : s.rawInfo with
    | none =>
        simp only [initDeviceInfo, hinfo] at h
        subst h
        exact .half _ _ [] rfl rfl rfl
    | some info =>
        simp only [initDeviceInfo, hinfo] at h
        obtain ⟨result, d', hreports, rfl⟩ := h
        rcases initReports_outcome hreports with ⟨e, hr⟩ | ⟨c, rs, hdecodes, hr⟩
        · obtain ⟨rfl, rfl⟩ := Prod.mk.inj hr
          exact .half _ _ [info] rfl rfl rfl
        · obtain ⟨rfl, rfl⟩ := Prod.mk.inj hr
          exact .complete _ info c rs rfl rfl rfl hdecodes rfl

theorem lawful : Lawful deviceClass decoding where
  open_held s d r hhandle := by
    show openPlatform s d r ↔ _
    rw [openPlatform, if_pos hhandle]
  open_free _ _ _ := openPlatform_outcome
  send t data _ := .inr ⟨(sendReport t data).2, rfl⟩
  reset _ := ⟨{}, rfl⟩

end LinuxHIDDevice

namespace WindowsHIDDevice

/-- The report of a device with some capabilities. -/
def HidCapabilities.toReport (c : HidCapabilities) : HIDReport where
  usagePage := c.caps.usagePage.toUInt32
  usage := c.caps.usage.toUInt32
  input := c.input.map HidpValueCaps.toCollection
  output := c.output.map HidpValueCaps.toCollection
  feature := c.feature.map HidpValueCaps.toCollection

/-- The members are the values of the queries, with the interface number in the
path. -/
def decoding (filename : WString) : Decoding HiddAttributes HidCapabilities where
  info i info := ∃ n, interfaceNumber filename = some n ∧ info = deviceInfo n i
  reports c rs := rs = [HidCapabilities.toReport c]

theorem capsToCollections_ok {result : ValueCapsResult} {cs : List HIDCollection}
    {vcaps : List HidpValueCaps} (h : capsToCollections result = .ok (cs, vcaps)) :
    cs = vcaps.map HidpValueCaps.toCollection := by
  unfold capsToCollections at h
  split at h
  · obtain ⟨rfl, rfl⟩ := by simpa using h
    rfl
  · cases h
  · split at h
    · cases h
    · obtain ⟨rfl, rfl⟩ := by simpa using h
      rfl

/-- `init_reports` after the device info: a query fails, or there is one report
more. -/
theorem initReports_outcome (s : WindowsCalls) (d : WindowsHIDDevice) :
    (∃ e own, initReports s d = (.error e, { d with own := own })) ∨
      ∃ c own, initReports s d = (.ok (),
        { d with own := own, reports := d.reports ++ [HidCapabilities.toReport c] }.record
          (.descriptor c)) := by
  unfold initReports
  split
  · exact .inl ⟨_, d.own, rfl⟩
  · split
    · exact .inl ⟨_, d.own, rfl⟩
    · next caps _ =>
        dsimp only
        cases hinput : capsToCollections (s.valueCaps .input) with
        | error e => exact .inl ⟨e, _, rfl⟩
        | ok input =>
            cases houtput : capsToCollections (s.valueCaps .output) with
            | error e => exact .inl ⟨e, _, rfl⟩
            | ok output =>
                cases hfeature : capsToCollections (s.valueCaps .feature) with
                | error e => exact .inl ⟨e, _, rfl⟩
                | ok feature =>
                    refine .inr ⟨⟨caps, input.2, output.2, feature.2⟩,
                      ⟨caps.outputReportByteLength.toUInt32⟩, ?_⟩
                    simp only [HidCapabilities.toReport, ← capsToCollections_ok hinput,
                      ← capsToCollections_ok houtput, ← capsToCollections_ok hfeature]

theorem openPlatform_outcome {filename : WString} {s : WindowsCalls} {d : WindowsHIDDevice}
    {r : WindowsReturned} (hhandle : d.handle = false) (h : openPlatform filename s d r) :
    OpenOutcome (decoding filename) d r := by
  rw [openPlatform, hhandle, if_neg (by decide)] at h
  split at h
  · subst h
    exact .unavailable _
  · obtain ⟨result, d', hinfo, rfl⟩ := h
    unfold initDeviceInfo at hinfo
    split at hinfo
    · obtain ⟨rfl, rfl⟩ := Prod.mk.inj hinfo
      exact .half _ _ [] rfl rfl rfl
    · next attrs _ =>
        obtain ⟨n, hn, hr⟩ := hinfo
        obtain ⟨rfl, rfl⟩ := Prod.mk.inj hr
        split_ifs
        · exact .half _ _ [attrs] rfl rfl rfl
        · rcases initReports_outcome s ({ d.acquire with
            deviceInfo := deviceInfo n attrs }.record (.info attrs)) with
            ⟨e, own, hreports⟩ | ⟨c, own, hreports⟩
          · simp only [hreports]
            exact .half _ _ [attrs] rfl rfl rfl
          · simp only [hreports]
            exact .complete _ attrs c _ rfl rfl ⟨n, hn, rfl⟩ rfl rfl

theorem lawful (filename : WString) : Lawful (deviceClass filename) (decoding filename) where
  open_held s d r hhandle := by
    show openPlatform filename s d r ↔ _
    rw [openPlatform, if_pos hhandle]
  open_free _ _ _ := openPlatform_outcome
  send t data d := by
    rcases hsend : sendReport d.own.reportLength t data with ⟨result, _ | buffer⟩
    · exact .inl (by simp [deviceClass, hsend])
    · exact .inr ⟨buffer, by simp [deviceClass, hsend]⟩
  reset d := ⟨d.release.own, rfl⟩

end WindowsHIDDevice

/-! ### Main results -/

/-- **Nothing is written to a device that has not passed every gate.** Whatever
calls are made on an object and however their system calls end, a message is
sent in a session with one device info and one descriptor, which pass the gates,
and its count is that of the first report that passes. -/
theorem sent_gated :
    (∀ info own calls d, Session LinuxHIDDevice.deviceClass (Device.new info own) calls d →
      AllGated LinuxHIDDevice.deviceClass LinuxHIDDevice.decoding d.trace) ∧
    ∀ filename info own calls d,
      Session (WindowsHIDDevice.deviceClass filename) (Device.new info own) calls d →
      AllGated (WindowsHIDDevice.deviceClass filename) (WindowsHIDDevice.decoding filename)
        d.trace :=
  ⟨fun _ _ _ _ h => (h.inv LinuxHIDDevice.lawful).gated,
    fun filename _ _ _ _ h => (h.inv (WindowsHIDDevice.lawful filename)).gated⟩

/-- A Windows device with the raw HID interface of a keyboard. -/
def rawHidPath : WString := tagUC ++ [0x30, 0x31]

/-- The system calls that open it succeed. -/
def rawHidCalls : WindowsCalls where
  createFile := true
  attributes := some ⟨0x1209, 0x0001⟩
  preparsedData := true
  caps := some ⟨0xFF60, 0x61, 33⟩
  valueCaps
    | .input => .success [⟨false, 0x62, 0, 255, 32, 8⟩]
    | .output => .success [⟨false, 0x63, 0, 255, 32, 8⟩]
    | .feature => .usageNotFound

/-- The message is sent to it through the gates. -/
theorem sent_gated_rawHid :
    ∃ d data, Session (WindowsHIDDevice.deviceClass rawHidPath) (Device.new {} {})
        [.identify rawHidCalls ⟨true, true, some 33⟩] d ∧
      OsEvent.sent data ∈ d.trace ∧
      AllGated (WindowsHIDDevice.deviceClass rawHidPath) (WindowsHIDDevice.decoding rawHidPath)
        d.trace := by
  have hsession : Session (WindowsHIDDevice.deviceClass rawHidPath) (Device.new {} {})
      ([] ++ [.identify rawHidCalls ⟨true, true, some 33⟩]) _ :=
    .snoc .nil ⟨.ok (), _, ⟨.ok (), _, ⟨1, by decide, rfl⟩, rfl⟩, rfl⟩
  refine ⟨_, resize (identifyData .windows) 33, hsession, ?_,
    sent_gated.2 rawHidPath {} {} _ _ hsession⟩
  exact List.mem_cons_of_mem _ List.mem_cons_self

/-- **A successful `open()`** leaves a complete object, throughout a sequence of
calls, if and only if none is made on a half open one: after an `identify()`
that failed before it had read the descriptor, and no `close()`. -/
theorem open_complete_iff (filename : WString) (info : USBDeviceInfo) :
    (∀ own calls,
      (∀ pre s post d d', calls = pre ++ .open s :: post →
        Session LinuxHIDDevice.deviceClass (Device.new info own) pre d →
        LinuxHIDDevice.deviceClass.openDevice s d (.ok (), d') →
        Complete LinuxHIDDevice.decoding d') ↔
      ∀ pre s post d, calls = pre ++ .open s :: post →
        Session LinuxHIDDevice.deviceClass (Device.new info own) pre d → ¬ HalfOpen d) ∧
    ∀ own calls,
      (∀ pre s post d d', calls = pre ++ .open s :: post →
        Session (WindowsHIDDevice.deviceClass filename) (Device.new info own) pre d →
        (WindowsHIDDevice.deviceClass filename).openDevice s d (.ok (), d') →
        Complete (WindowsHIDDevice.decoding filename) d') ↔
      ∀ pre s post d, calls = pre ++ .open s :: post →
        Session (WindowsHIDDevice.deviceClass filename) (Device.new info own) pre d →
        ¬ HalfOpen d :=
  ⟨fun _ _ => openCalls_iff LinuxHIDDevice.lawful,
    fun _ _ => openCalls_iff (WindowsHIDDevice.lawful filename)⟩

/-- A hidraw device whose first query fails. -/
def noInfoCalls : HidrawCalls where
  fd := true
  rawInfo := none
  descSize := none
  desc := none
  rawPhys := none

/-- After an `identify()` that failed there, `open()` returns normally and leaves
the object without device info and reports. -/
theorem open_halfOpen :
    ∃ d d', Session LinuxHIDDevice.deviceClass (Device.new {} {}) [.identify noInfoCalls 0] d ∧
      LinuxHIDDevice.deviceClass.openDevice noInfoCalls d (.ok (), d') ∧
      ¬ Complete LinuxHIDDevice.decoding d' := by
  have hsession : Session LinuxHIDDevice.deviceClass (Device.new {} {})
      ([] ++ [.identify noInfoCalls 0]) _ :=
    .snoc .nil ⟨.error .osError, _, rfl, rfl⟩
  refine ⟨_, _, hsession, ⟨.ok (), _, rfl, rfl⟩, ?_⟩
  intro hcomplete
  obtain ⟨i, hi, -⟩ := hcomplete.info
  cases hi

end QmkHidIdentify
