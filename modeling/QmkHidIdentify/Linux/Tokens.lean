import QmkHidIdentify.Lib.Transducer
import QmkHidIdentify.Linux.ReportDesc

/-!
# QmkHidIdentify.Linux.Tokens

The parser over **tokens** instead of bytes, as one pass over the descriptor.

A token is what the two switches of `get_next_hid_usage` can tell about an
item. Where an item starts depends on the bytes only, never on what the parser
remembers, so a descriptor has one token list (`tokens`) whatever calls read
it. `UsageVars.step` is the loop body on a token, and `scanner` is repeated calls of
`get_next_hid_usage`: a call that returns at an End Collection leaves `*pos` on
that item, and the next call steps over it with fresh variables, so the
hand-over between two calls is one step of the scanner.

`hidUsages_eq` and `initReports_iff` at the end state what the byte-level loops
compute, for every descriptor: repeated calls give everything the scanner
writes, `init_reports` keeps the first report of it and does not end where there
is none. Later modules only reason about `scanner`.
-/

namespace QmkHidIdentify

/-- What the parser can tell about one item of the descriptor. -/
inductive Token
  | usagePage (v : UInt32)
  | field (f : Field) (v : UInt32)
  | main (k : MainKind)
  | collection
  | endCollection
  | other
  deriving BEq, ReflBEq, LawfulBEq, Repr

namespace Token

/-- The token of an item by its `key_cmd` and its data. -/
def ofKey (keyCmd : Nat) (v : UInt32) : Token :=
  match keyCmd with
  | 0x04 => .usagePage v
  | 0x08 => .field .usage v
  | 0x14 => .field .minimum v
  | 0x24 => .field .maximum v
  | 0x74 => .field .size v
  | 0x94 => .field .count v
  | 0x80 => .main .input
  | 0x90 => .main .output
  | 0xb0 => .main .feature
  | 0xa0 => .collection
  | 0xc0 => .endCollection
  | _ => .other

/-- Main items: they end the scope of the Local items before them. -/
def isMain : Token → Bool
  | .main _ | .collection | .endCollection => true
  | _ => false

end Token

/-! ### The loop body on a token -/

namespace UsageVars

/-- One pass through the loop body, where it does not return. -/
def step (s : UsageVars) : Token → UsageVars
  | .usagePage v =>
      if s.collection then s
      else { s with hidReport := { s.hidReport with usagePage := v }, usagePageFound := true }
  | .field f v => if f = .usage ∨ s.collection then { s with tmp := s.tmp.set f v } else s
  | .main k =>
      { s with hidReport := if s.collection then s.hidReport.push k s.tmp else s.hidReport,
               tmp := {} }
  | .collection =>
      if s.usagePageFound && s.tmp.hasUsage then
        { s with collection := true, usagePairReady := true,
                 hidReport := { s.hidReport with usage := s.tmp.usage }, tmp := {} }
      else { s with collection := true, tmp := {} }
  | .endCollection => { s with collection := false, usagePairReady := false, tmp := {} }
  | .other => s

/-- The loop body returns a pair at an End Collection. -/
def returnsAt (s : UsageVars) (t : Token) : Bool :=
  t == .endCollection && s.collection && s.usagePairReady

theorem returnsAt_iff {s : UsageVars} {t : Token} :
    s.returnsAt t = true ↔
      t = .endCollection ∧ s.collection = true ∧ s.usagePairReady = true := by
  simp [returnsAt, and_assoc]

/-- The switches compute `step`. -/
theorem switchKey_eq (s : UsageVars) (keyCmd : Nat) (v : UInt32) :
    (s.switchKey keyCmd (some v)).map (·.unsetLocal keyCmd) =
      some (s.step (.ofKey keyCmd v)) := by
  unfold Token.ofKey
  split <;> simp only [switchKey, unsetLocal, step, HIDCollection.set, HIDReport.push] <;>
    first
    | rfl
    | (split <;> simp_all)

/-- The loop body returns exactly at the `key_cmd` of an End Collection. -/
theorem returnsAt_ofKey (s : UsageVars) (keyCmd : Nat) (v : UInt32) :
    s.returnsAt (.ofKey keyCmd v) = true ↔
      keyCmd = 0xc0 ∧ s.collection ∧ s.usagePairReady := by
  unfold Token.ofKey
  split <;> simp_all [returnsAt]

/-- A fresh call never returns at its first item, and leaves an End Collection
as fresh as it came. -/
theorem step_fresh_of_returnsAt {s : UsageVars} {t : Token} (h : s.returnsAt t = true) :
    ({} : UsageVars).returnsAt t = false ∧ ({} : UsageVars).step t = {} := by
  obtain ⟨rfl, -, -⟩ := returnsAt_iff.mp h
  exact ⟨rfl, rfl⟩

/-! What one step does to each variable. -/

theorem step_collection (s : UsageVars) (t : Token) :
    (s.step t).collection = match t with
      | .collection => true
      | .endCollection => false
      | _ => s.collection := by
  cases t <;> simp only [step] <;> split <;> simp_all

theorem step_usagePageFound (s : UsageVars) (t : Token) :
    (s.step t).usagePageFound = match t with
      | .usagePage _ => s.usagePageFound || !s.collection
      | _ => s.usagePageFound := by
  cases t <;> simp only [step] <;> split <;> simp_all

theorem step_usagePairReady (s : UsageVars) (t : Token) :
    (s.step t).usagePairReady = match t with
      | .collection => s.usagePairReady || (s.usagePageFound && s.tmp.hasUsage)
      | .endCollection => false
      | _ => s.usagePairReady := by
  cases t <;> simp only [step] <;> split <;> simp_all

theorem step_tmp (s : UsageVars) (t : Token) :
    (s.step t).tmp = match t with
      | .field f v => if f = .usage ∨ s.collection then s.tmp.set f v else s.tmp
      | .usagePage _ | .other => s.tmp
      | _ => {} := by
  cases t <;> simp only [step] <;> split <;> simp_all

theorem step_entries (s : UsageVars) (t : Token) (k : MainKind) :
    (s.step t).hidReport.entries k = match t with
      | .main k' => s.hidReport.entries k ++ if s.collection ∧ k = k' then [s.tmp] else []
      | _ => s.hidReport.entries k := by
  cases t with
  | main k' =>
      simp only [step]
      cases s.collection <;> simp [HIDReport.entries_push]
  | _ => cases k <;> simp only [step] <;> split <;> rfl

theorem step_usagePage (s : UsageVars) (t : Token) :
    (s.step t).hidReport.usagePage = match t with
      | .usagePage v => if s.collection then s.hidReport.usagePage else v
      | _ => s.hidReport.usagePage := by
  cases t <;> simp only [step] <;> split <;> simp_all

theorem step_usage (s : UsageVars) (t : Token) :
    (s.step t).hidReport.usage = match t with
      | .collection =>
          if s.usagePageFound && s.tmp.hasUsage then s.tmp.usage else s.hidReport.usage
      | _ => s.hidReport.usage := by
  cases t <;> simp only [step] <;> split <;> simp_all

end UsageVars

/-! ### Reading an item -/

/-- The sizes of the item at `pos`. -/
def itemSize (rpt : List UInt8) (pos : Nat) : ItemSize :=
  (getHidItemSize rpt pos).getD ⟨true, 0, 1⟩

/-- Where the item after the one at `pos` starts. -/
def nextPos (rpt : List UInt8) (pos : Nat) : Nat :=
  pos + ((itemSize rpt pos).dataLen + (itemSize rpt pos).keySize)

/-- The token of the item at `pos`. -/
def tokenAt (rpt : List UInt8) (pos : Nat) : Token :=
  match rpt[pos]? with
  | none => .other
  | some key =>
      .ofKey (key &&& 0xfc).toNat
        ((getHidReportBytes rpt (itemSize rpt pos).dataLen pos).getD 0)

/-- The size code has two bits. -/
theorem sizeCode_cases (key : UInt8) :
    (key &&& 0x3).toNat = 0 ∨ (key &&& 0x3).toNat = 1 ∨ (key &&& 0x3).toNat = 2 ∨
      (key &&& 0x3).toNat = 3 := by
  have hlt : (key &&& 0x3).toNat < 4 := by
    rw [UInt8.toNat_and]
    exact Nat.lt_of_le_of_lt Nat.and_le_right (by decide)
  omega

theorem shortItemSize_cases (key : UInt8) :
    shortItemSize key = ⟨true, 0, 1⟩ ∨ shortItemSize key = ⟨true, 1, 1⟩ ∨
      shortItemSize key = ⟨true, 2, 1⟩ ∨ shortItemSize key = ⟨true, 4, 1⟩ := by
  rcases sizeCode_cases key with h | h | h | h
  all_goals simp only [shortItemSize, h]; simp

theorem shortItemSize_dataLen (key : UInt8) : (shortItemSize key).dataLen = 0 ∨
    (shortItemSize key).dataLen = 1 ∨ (shortItemSize key).dataLen = 2 ∨
    (shortItemSize key).dataLen = 4 := by
  rcases shortItemSize_cases key with h | h | h | h <;> simp [h]

/-- Everything the parser relies on about the size of an item: the helper reads
in bounds and succeeds, the item is not empty, and it runs at most 256 bytes
past the end. -/
theorem itemSize_spec {rpt : List UInt8} {pos : Nat} (h : pos < rpt.length) :
    getHidItemSize rpt pos = some (itemSize rpt pos) ∧ (itemSize rpt pos).ok = true ∧
      pos < nextPos rpt pos ∧ nextPos rpt pos ≤ rpt.length + 256 := by
  unfold nextPos itemSize getHidItemSize
  rw [List.getElem?_eq_getElem h]
  dsimp only
  split
  · next hlong =>
      have hin := hlong.2
      have hlen := rpt[pos + 1].toNat_lt
      rw [List.getElem?_eq_getElem hin]
      simp only [Option.getD_some, true_and]
      omega
  · rcases shortItemSize_cases rpt[pos] with hs | hs | hs | hs <;>
      simp only [hs, Option.getD_some, true_and] <;> omega

theorem pos_lt_nextPos (rpt : List UInt8) (pos : Nat) : pos < nextPos rpt pos := by
  by_cases h : pos < rpt.length
  · exact (itemSize_spec h).2.2.1
  · simp [nextPos, itemSize, getHidItemSize, List.getElem?_eq_none (Nat.le_of_not_lt h)]

/-- The data of an item are read in bounds, whatever length is asked for. -/
theorem getHidReportBytes_isSome (rpt : List UInt8) (numBytes cur : Nat) :
    (getHidReportBytes rpt numBytes cur).isSome = true := by
  unfold getHidReportBytes
  split
  · rfl
  · next h =>
      have hget : ∀ i, 1 ≤ i → i ≤ numBytes → rpt[cur + i]? = some (rpt[cur + i]?.getD 0) := by
        intro i _ hi
        have hlt : cur + i < rpt.length := by omega
        simp [List.getElem?_eq_getElem hlt]
      split_ifs with h0 h1 h2 h4 <;> try rfl
      · rw [hget 1 (by omega) (by omega)]; rfl
      · rw [hget 1 (by omega) (by omega), hget 2 (by omega) (by omega)]; rfl
      · rw [hget 1 (by omega) (by omega), hget 2 (by omega) (by omega),
          hget 3 (by omega) (by omega), hget 4 (by omega) (by omega)]; rfl

/-- The loop body on bytes is the loop body on the token. No position wraps: it
stays below `size + 256`. -/
theorem usageBody_eq {rpt : List UInt8} {pos : Nat}
    (hsize : rpt.length ≤ HID_MAX_DESCRIPTOR_SIZE) (h : pos < rpt.length) (s : UsageVars) :
    usageBody rpt pos s = some (if s.returnsAt (tokenAt rpt pos) = true then .ret .found
      else .next (nextPos rpt pos) (s.step (tokenAt rpt pos))) := by
  obtain ⟨hitem, hok, -, hnext⟩ := itemSize_spec h
  obtain ⟨v, hv⟩ := Option.isSome_iff_exists.mp
    (getHidReportBytes_isSome rpt (itemSize rpt pos).dataLen pos)
  have hmod : nextPos rpt pos % 2 ^ 32 = nextPos rpt pos := by
    apply Nat.mod_eq_of_lt
    simp only [HID_MAX_DESCRIPTOR_SIZE] at hsize
    omega
  have hswitch := s.switchKey_eq (rpt[pos] &&& 0xfc).toNat v
  have hret := s.returnsAt_ofKey (rpt[pos] &&& 0xfc).toNat v
  simp only [usageBody, tokenAt, List.getElem?_eq_getElem h, hitem, hok, hv, Option.getD_some]
  rw [if_neg (by decide)]
  by_cases hr : s.returnsAt (.ofKey (rpt[pos] &&& 0xfc).toNat v) = true
  · rw [if_pos hr, if_pos (hret.mp hr)]
  · rw [if_neg hr, if_neg fun hc => hr (hret.mpr hc)]
    obtain ⟨s', hs', hstep⟩ := Option.map_eq_some_iff.mp hswitch
    rw [hs', Option.map_some, hstep]
    simp only [nextPos] at hmod ⊢
    rw [hmod]

/-- The tokens of a descriptor from a position on. -/
def tokensFrom (rpt : List UInt8) (pos : Nat) : List Token :=
  if pos < rpt.length then tokenAt rpt pos :: tokensFrom rpt (nextPos rpt pos) else []
  termination_by rpt.length - pos
  decreasing_by
    have := pos_lt_nextPos rpt pos
    omega

/-- The tokens of a descriptor. -/
def HidrawDescriptor.tokens (d : HidrawDescriptor) : List Token := tokensFrom d.value 0

/-! ### Repeated calls as one pass -/

/-- The state of the pass: whether the running call is the first one, and its
variables. -/
structure Scan where
  initial : Bool := true
  vars : UsageVars := {}
  deriving DecidableEq, Repr

/-- Repeated calls of `get_next_hid_usage` over tokens. -/
def scanner : Transducer Scan Token HIDReport where
  step s t := if s.vars.returnsAt t then { initial := false } else { s with vars := s.vars.step t }
  out s t := if s.vars.returnsAt t then [s.vars.hidReport] else []
  final s :=
    if s.initial && s.vars.usagePageFound && s.vars.tmp.hasUsage then [s.vars.hidReport] else []

theorem scanner_returns {s : Scan} {t : Token} (h : s.vars.returnsAt t = true) :
    scanner.step s t = { initial := false } ∧ scanner.out s t = [s.vars.hidReport] := by
  simp [scanner, h]

theorem scanner_continues {s : Scan} {t : Token} (h : s.vars.returnsAt t = false) :
    scanner.step s t = ⟨s.initial, s.vars.step t⟩ ∧ scanner.out s t = [] := by
  simp [scanner, h]

/-- Whether the scan is in a collection is a matter of the last bracket. -/
theorem scanner_step_collection (s : Scan) (t : Token) :
    (scanner.step s t).vars.collection = match t with
      | .collection => true
      | .endCollection => false
      | _ => s.vars.collection := by
  cases hr : s.vars.returnsAt t with
  | true =>
      obtain ⟨rfl, -, -⟩ := UsageVars.returnsAt_iff.mp hr
      rw [(scanner_returns hr).1]
  | false => rw [(scanner_continues hr).1, UsageVars.step_collection]

/-- Only an End Collection can end a call. -/
theorem UsageVars.returnsAt_of_ne (s : UsageVars) {t : Token} (h : t ≠ .endCollection) :
    s.returnsAt t = false := by
  simp [UsageVars.returnsAt, h]

/-- Repeated calls from within one. -/
def resumeLoop (rpt : List UInt8) (initial : Bool) (outer fuel pos : Nat) (s : UsageVars)
    (reports : List HIDReport) : Option (Ret × List HIDReport) :=
  match usageLoop rpt initial fuel pos s with
  | none => none
  | some ⟨.found, pos', hidReport⟩ => hidUsagesLoop rpt outer pos' (reports ++ [hidReport])
  | some ⟨ret, _, _⟩ => some (ret, reports)

theorem hidUsagesLoop_succ (rpt : List UInt8) (outer pos : Nat) (reports : List HIDReport) :
    hidUsagesLoop rpt (outer + 1) pos reports =
      resumeLoop rpt (pos == 0) outer (rpt.length + 1) pos {} reports := rfl

theorem resumeLoop_end {rpt : List UInt8} {pos : Nat} (h : ¬ pos < rpt.length) (initial : Bool)
    {outer fuel : Nat} (ho : 0 < outer) (hf : 0 < fuel) (s : UsageVars)
    (reports : List HIDReport) :
    resumeLoop rpt initial outer fuel pos s reports =
      some (.finished, reports ++ scanner.final ⟨initial, s⟩) := by
  obtain ⟨outer, rfl⟩ := Nat.exists_eq_succ_of_ne_zero ho.ne'
  obtain ⟨fuel, rfl⟩ := Nat.exists_eq_succ_of_ne_zero hf.ne'
  simp only [resumeLoop, usageLoop, if_neg h, scanner]
  cases initial && s.usagePageFound && s.tmp.hasUsage with
  | true =>
      -- the call after the fallback starts at the end and finds nothing
      simp [hidUsagesLoop, getNextHidUsage, usageLoop, h]
  | false => simp

/-- One step of the loop inside a call, with enough fuel left. -/
theorem resumeLoop_step {rpt : List UInt8} {pos : Nat}
    (hsize : rpt.length ≤ HID_MAX_DESCRIPTOR_SIZE) (h : pos < rpt.length) (initial : Bool)
    (outer fuel : Nat) (s : UsageVars) (reports : List HIDReport) :
    resumeLoop rpt initial outer (fuel + 1) pos s reports =
      if s.returnsAt (tokenAt rpt pos) = true then
        hidUsagesLoop rpt outer pos (reports ++ [s.hidReport])
      else resumeLoop rpt initial outer fuel (nextPos rpt pos) (s.step (tokenAt rpt pos))
        reports := by
  simp only [resumeLoop, usageLoop, if_pos h, usageBody_eq hsize h]
  by_cases hr : s.returnsAt (tokenAt rpt pos) = true
  · rw [if_pos hr, if_pos hr]
  · rw [if_neg hr, if_neg hr]

/-- From any point of any call on, repeated calls end and add the scanner's
output. The induction is over the tokens; `hpos` keeps the next
call from being taken for the first one. -/
theorem resumeLoop_eq (rpt : List UInt8) (hsize : rpt.length ≤ HID_MAX_DESCRIPTOR_SIZE)
    (pos : Nat) : ∀ (initial : Bool) (outer fuel : Nat) (s : UsageVars) (reports : List HIDReport),
      rpt.length < pos + outer → rpt.length < pos + fuel → 0 < outer → 0 < fuel →
      (s.collection = true → 0 < pos) →
      resumeLoop rpt initial outer fuel pos s reports =
        some (.finished, reports ++ scanner.eval ⟨initial, s⟩ (tokensFrom rpt pos)) := by
  fun_induction tokensFrom rpt pos with
  | case2 pos h =>
      intro initial outer fuel s reports _ _ ho hf _
      rw [resumeLoop_end h initial ho hf, Transducer.eval_nil]
  | case1 pos h ih =>
      intro initial outer fuel s reports houter hfuel ho hf hpos
      have hlt := pos_lt_nextPos rpt pos
      obtain ⟨fuel, rfl⟩ := Nat.exists_eq_succ_of_ne_zero hf.ne'
      rw [resumeLoop_step hsize h, Transducer.eval_cons]
      by_cases hr : s.returnsAt (tokenAt rpt pos) = true
      · -- the call returns here; the next one steps over the same item
        obtain ⟨hfresh, hstep⟩ := UsageVars.step_fresh_of_returnsAt hr
        obtain ⟨outer, rfl⟩ := Nat.exists_eq_succ_of_ne_zero ho.ne'
        have hinit : (pos == 0) = false := by
          have : 0 < pos := hpos (by simp_all [UsageVars.returnsAt])
          simpa using this.ne'
        rw [if_pos hr, Nat.succ_eq_add_one, hidUsagesLoop_succ, hinit, resumeLoop_step hsize h,
          hfresh, hstep, if_neg (by decide)]
        rw [ih false outer rpt.length {} _ (by omega) (by omega) (by omega) (by omega)
          (by intro _; omega)]
        simp [scanner, hr]
      · rw [if_neg hr, ih initial outer fuel _ _ (by omega) (by omega) ho (by omega)
          (by intro _; omega)]
        simp [scanner, hr]

/-- **The parser is the scanner**: for every descriptor, repeated calls read in
bounds, end with the return code 1, and give what the scanner writes over the
tokens. -/
theorem hidUsages_eq (d : HidrawDescriptor) :
    hidUsages d = some (.finished, scanner.eval {} d.tokens) := by
  unfold hidUsages HidrawDescriptor.tokens
  rw [hidUsagesLoop_succ]
  exact resumeLoop_eq d.value d.size_le 0 true _ _ {} [] (by omega) (by omega) (by omega)
    (by omega) (by simp)

/-! ### The loop of `init_reports` -/

theorem hidUsagesLoop_append {rpt : List UInt8} {fuel pos : Nat} {reports rs : List HIDReport}
    {ret : Ret} (h : hidUsagesLoop rpt fuel pos reports = some (ret, rs)) :
    ∃ more, rs = reports ++ more := by
  induction fuel generalizing pos reports with
  | zero => simp [hidUsagesLoop] at h
  | succ fuel ih =>
      rw [hidUsagesLoop] at h
      split at h
      · cases h
      · next pos' hidReport hcall =>
          obtain ⟨more, rfl⟩ := ih h
          exact ⟨hidReport :: more, by simp⟩
      · next hcall =>
          obtain ⟨-, rfl⟩ := by simpa using h
          exact ⟨[], by simp⟩

/-- A call that finds nothing more has read the descriptor to its end. -/
theorem usageLoop_finished {rpt : List UInt8} {initial : Bool} {fuel pos : Nat} {s : UsageVars}
    {pos' : Nat} {r : HIDReport}
    (h : usageLoop rpt initial fuel pos s = some ⟨.finished, pos', r⟩) : rpt.length ≤ pos' := by
  induction fuel generalizing pos s with
  | zero => simp [usageLoop] at h
  | succ fuel ih =>
      rw [usageLoop] at h
      split at h
      · split at h
        · cases h
        · next ret hbody =>
            obtain ⟨rfl, -, -⟩ := by simpa using h
            simp only [usageBody] at hbody
            split at hbody <;> simp_all
            split at hbody <;> simp_all
            split at hbody <;> simp_all
        · exact ih h
      · next hpos =>
          obtain ⟨-, rfl, -⟩ := by simpa using h
          omega

/-- A call at the end of the descriptor finds nothing and stays there. -/
theorem getNextHidUsage_end {rpt : List UInt8} {pos : Nat} (h : rpt.length ≤ pos) :
    getNextHidUsage rpt pos = some ⟨.finished, pos, {}⟩ := by
  simp [getNextHidUsage, usageLoop, Nat.not_lt.mpr h]

/-- Once a call has returned 1, the loop of `init_reports` does not end. -/
theorem initReportsLoop_end {rpt : List UInt8} {pos : Nat} (h : rpt.length ≤ pos) (fuel : Nat)
    (reports : List HIDReport) : initReportsLoop rpt fuel pos reports = none := by
  induction fuel with
  | zero => rfl
  | succ fuel ih =>
      rw [initReportsLoop, getNextHidUsage_end h]
      exact ih

/-- **The loop of `init_reports`** ends exactly if the descriptor has a report.
It then leaves without an exception, and with the first report only. -/
theorem initReports_iff (d : HidrawDescriptor) (reports : List HIDReport)
    (result : Except Exception Unit × List HIDReport) :
    InitReports d reports result ↔
      ∃ r rs, scanner.eval {} d.tokens = r :: rs ∧ result = (.ok (), reports ++ [r]) := by
  have hall := hidUsages_eq d
  rw [hidUsages, hidUsagesLoop] at hall
  have hloop : InitReports d reports result ↔
      ∃ fuel, initReportsLoop d.value (fuel + 1) 0 reports = some result := by
    refine ⟨?_, ?_⟩
    · intro hends
      obtain ⟨fuel, hfuel⟩ := hends
      cases fuel with
      | zero => cases hfuel
      | succ fuel => exact ⟨fuel, hfuel⟩
    · intro hends
      obtain ⟨fuel, hfuel⟩ := hends
      exact ⟨fuel + 1, hfuel⟩
  rw [hloop]
  simp only [initReportsLoop]
  match hcall : getNextHidUsage d.value 0 with
  | none => simp [hcall] at hall
  | some ⟨.found, pos, r⟩ =>
      rw [hcall] at hall
      obtain ⟨rs, hrs⟩ := hidUsagesLoop_append hall
      refine ⟨?_, ?_⟩
      · intro hends
        obtain ⟨fuel, hfuel⟩ := hends
        exact ⟨r, rs, by simpa using hrs, by simpa using hfuel.symm⟩
      · intro hfirst
        obtain ⟨r', rs', heval, rfl⟩ := hfirst
        obtain ⟨rfl, -⟩ : r = r' ∧ rs = rs' := by simpa [heval] using hrs.symm
        exact ⟨0, rfl⟩
  | some ⟨.finished, pos, r⟩ =>
      rw [hcall] at hall
      have heval : scanner.eval {} d.tokens = [] := by simpa using hall.symm
      simp [heval, initReportsLoop_end (usageLoop_finished hcall)]
  | some ⟨.malformed, pos, r⟩ =>
      rw [hcall] at hall
      simp at hall

end QmkHidIdentify
