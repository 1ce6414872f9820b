import SerialLine.Devices
import SerialLine.Proofs.Text.Order

/-!
# SerialLine.Proofs.Devices.Listing — listing and finding agree

A listing is sorted first and freed of repeated paths afterwards, while a device is looked up in
the report as it came. Both keep the first report of a path: sorting is stable, so the reports of
one path stay in their order (`find?_mergeSort`), and of neighbours with one path the first is kept
(`find?_keepFirst`). `listing_agrees` puts this together with the order of the listing.
-/

namespace SerialLine

open DeviceInfo (notAfter)

/-! ## Sorting -/

theorem notAfter_iff {a b : DeviceInfo} : notAfter a b = true ↔ a.path ≤ b.path := by
  rw [notAfter, Bool.not_eq_true', decide_eq_false_iff_not]
  exact Iff.rfl

theorem notAfter_trans (a b c : DeviceInfo) (hab : notAfter a b = true)
    (hbc : notAfter b c = true) : notAfter a c = true := by
  rw [notAfter_iff] at *
  exact String.le_trans hab hbc

theorem notAfter_total (a b : DeviceInfo) : (notAfter a b || notAfter b a) = true := by
  rw [Bool.or_eq_true, notAfter_iff, notAfter_iff]
  exact String.le_total a.path b.path

/-- The devices of one path stay in the order in which they were reported. -/
theorem filter_mergeSort (devices : List DeviceInfo) (path : String) :
    (devices.mergeSort notAfter).filter (·.path == path) = devices.filter (·.path == path) := by
  have hlevel : (devices.filter (·.path == path)).Pairwise (fun a b => notAfter a b = true) := by
    apply List.pairwise_of_forall_mem_list
    intro a ha b hb
    have hapath : a.path = path := by simpa using (List.mem_filter.mp ha).2
    have hbpath : b.path = path := by simpa using (List.mem_filter.mp hb).2
    have hsame : b.path = a.path := hbpath.trans hapath.symm
    apply notAfter_iff.mpr
    exact hsame.symm ▸ String.le_refl a.path
  have hsub : (devices.filter (·.path == path)).Sublist (devices.mergeSort notAfter) :=
    List.sublist_mergeSort notAfter_trans notAfter_total hlevel List.filter_sublist
  have hkept : (devices.filter (·.path == path)).Sublist
      ((devices.mergeSort notAfter).filter (·.path == path)) := by
    have hfilter := hsub.filter (·.path == path)
    simpa only [List.filter_filter, Bool.and_self] using hfilter
  have hlength : ((devices.mergeSort notAfter).filter (·.path == path)).length =
      (devices.filter (·.path == path)).length :=
    ((List.mergeSort_perm devices notAfter).filter _).length_eq
  exact (hkept.eq_of_length hlength.symm).symm

theorem find?_mergeSort (devices : List DeviceInfo) (path : String) :
    (devices.mergeSort notAfter).find? (·.path == path) = devices.find? (·.path == path) := by
  rw [← List.head?_filter, ← List.head?_filter, filter_mergeSort]

/-! ## Repeated paths -/

theorem keepFirst_sublist (devices : List DeviceInfo) : (keepFirst devices).Sublist devices := by
  induction devices with
  | nil => exact List.Sublist.refl []
  | cons d rest ih =>
    rw [keepFirst]
    apply List.Sublist.cons_cons
    cases hkept : keepFirst rest with
    | nil => exact List.nil_sublist rest
    | cons e more =>
      rw [hkept] at ih
      dsimp only
      split
      · exact (List.sublist_cons_self e more).trans ih
      · exact ih

/-- What is dropped has the path of the device right before it. -/
theorem find?_keepFirst (devices : List DeviceInfo) (path : String) :
    (keepFirst devices).find? (·.path == path) = devices.find? (·.path == path) := by
  induction devices with
  | nil => rfl
  | cons d rest ih =>
    rw [keepFirst, List.find?_cons, List.find?_cons, ← ih]
    cases hd : d.path == path with
    | true => rfl
    | false =>
      cases hkept : keepFirst rest with
      | nil => rfl
      | cons e more =>
        dsimp only
        split
        · rename_i hsame
          rw [List.find?_cons, ← hsame, hd]
        · rfl

/-- Where paths do not decrease, every path is left once. -/
theorem keepFirst_increasing {devices : List DeviceInfo}
    (h : devices.Pairwise (fun a b => a.path ≤ b.path)) :
    (keepFirst devices).Pairwise (fun a b => a.path < b.path) := by
  induction devices with
  | nil => exact List.Pairwise.nil
  | cons d rest ih =>
    obtain ⟨hd, hrest⟩ := List.pairwise_cons.mp h
    have hmore := ih hrest
    rw [keepFirst, List.pairwise_cons]
    cases hkept : keepFirst rest with
    | nil =>
      constructor
      · intro a ha
        cases ha
      · exact List.Pairwise.nil
    | cons e more =>
      rw [hkept] at hmore
      obtain ⟨he, hpairs⟩ := List.pairwise_cons.mp hmore
      have hde : d.path ≤ e.path := by
        apply hd
        apply (keepFirst_sublist rest).mem
        rw [hkept]
        exact List.mem_cons_self
      dsimp only
      split
      · rename_i hsame
        constructor
        · intro a ha
          rw [hsame]
          exact he a ha
        · exact hpairs
      · rename_i hdiffers
        have hlt : d.path < e.path := by
          by_contra hnot
          exact hdiffers (String.le_antisymm hde hnot)
        constructor
        · intro a ha
          rcases List.mem_cons.mp ha with rfl | ha
          · exact hlt
          · exact String.lt_trans hlt (he a ha)
        · exact hmore

/-- Where every path occurs once, a device is the one that is found for its path. -/
theorem find?_eq_some_iff_of_increasing {listed : List DeviceInfo}
    (h : listed.Pairwise (fun a b => a.path < b.path)) {d : DeviceInfo} {path : String} :
    listed.find? (·.path == path) = some d ↔ d ∈ listed ∧ d.path = path := by
  constructor
  · intro hfind
    have hpath : d.path = path := by simpa using List.find?_some hfind
    exact ⟨List.mem_of_find?_eq_some hfind, hpath⟩
  · rintro ⟨hmem, rfl⟩
    obtain ⟨before, after, rfl⟩ := List.append_of_mem hmem
    rw [List.find?_eq_some_iff_append]
    refine ⟨beq_self_eq_true _, before, after, rfl, ?_⟩
    intro a ha
    have hlt : a.path < d.path :=
      (List.pairwise_append.mp h).2.2 a ha d List.mem_cons_self
    have hne : a.path ≠ d.path := by
      intro heq
      rw [heq] at hlt
      exact String.lt_irrefl d.path hlt
    simpa using hne

/-! ## Listings -/

/-- What a listing makes of a report: the paths increase in the order of their bytes, they are those
of the report, and each device is the first that the report has for its path. -/
structure Lists (devices listed : List DeviceInfo) : Prop where
  increasing : listed.Pairwise (fun a b => Bytes.ofText a.path < Bytes.ofText b.path)
  paths : ∀ path, path ∈ listed.map (·.path) ↔ path ∈ devices.map (·.path)
  first : ∀ d ∈ listed, ∃ before after, devices = before ++ d :: after ∧
    ∀ a ∈ before, a.path ≠ d.path

section

variable (devices : List DeviceInfo)

/-- The listing of a report. -/
def listing : List DeviceInfo := keepFirst (devices.mergeSort notAfter)

theorem listing_increasing : (listing devices).Pairwise (fun a b => a.path < b.path) := by
  have hsorted := List.pairwise_mergeSort notAfter_trans notAfter_total devices
  apply keepFirst_increasing
  exact hsorted.imp notAfter_iff.mp

/-- A path is found in a listing as it is in the report. -/
theorem find?_listing (path : String) :
    (listing devices).find? (·.path == path) = devices.find? (·.path == path) := by
  rw [listing, find?_keepFirst, find?_mergeSort]

theorem find?_eq_some_iff_mem_listing {d : DeviceInfo} {path : String} :
    devices.find? (·.path == path) = some d ↔ d ∈ listing devices ∧ d.path = path := by
  rw [← find?_listing, find?_eq_some_iff_of_increasing (listing_increasing devices)]

theorem lists_listing : Lists devices (listing devices) where
  increasing := by
    apply (listing_increasing devices).imp
    intro a b hlt
    exact Utf8.ofText_lt_ofText.mpr hlt
  paths := by
    intro path
    have hfound {l : List DeviceInfo} :
        path ∈ l.map (·.path) ↔ (l.find? (·.path == path)).isSome = true := by
      simp [List.find?_isSome]
    rw [hfound, hfound, find?_listing]
  first := by
    intro d hd
    have hfind : devices.find? (·.path == d.path) = some d :=
      (find?_eq_some_iff_mem_listing devices).mpr ⟨hd, rfl⟩
    obtain ⟨-, before, after, hsplit, hbefore⟩ := List.find?_eq_some_iff_append.mp hfind
    refine ⟨before, after, hsplit, ?_⟩
    intro a ha
    simpa using hbefore a ha

end

/-- Whatever the system reports, listing and finding agree. A failed report fails both, with its
own error. Otherwise the listing has every reported path once, in the order of the bytes, with the
first device that was reported for it; and what is found for a path is what the listing has for it,
or nothing if it has nothing. -/
theorem listing_agrees (report : Outcome (List DeviceInfo)) :
    (∀ e, report = .error e →
      listDevices report = .error e ∧ ∀ path, findDevice report path = .error e) ∧
    (∀ devices, report = .ok devices →
      ∃ listed, listDevices report = .ok listed ∧ Lists devices listed ∧
        ∀ path, ∃ found?, findDevice report path = .ok found? ∧
          ∀ d, found? = some d ↔ d ∈ listed ∧ d.path = path) := by
  constructor
  · intro e hreport
    rw [hreport]
    constructor
    · rfl
    · intro path
      rfl
  · intro devices hreport
    rw [hreport]
    refine ⟨listing devices, rfl, lists_listing devices, ?_⟩
    intro path
    refine ⟨devices.find? (·.path == path), rfl, ?_⟩
    intro d
    exact find?_eq_some_iff_mem_listing devices

/-- A report that repeats a path with more to say of it: what is found is what came first. -/
def repeatedReport : List DeviceInfo :=
  [.bare "/dev/ttyUSB1", .bare "/dev/ttyACM0",
    { path := "/dev/ttyUSB1", transport := .usb, vendor? := some 0x0403 }]

theorem repeatedReport_agrees :
    (Except.ok repeatedReport : Outcome (List DeviceInfo)) = .ok repeatedReport ∧
      ∃ listed, listDevices (.ok repeatedReport) = .ok listed ∧ Lists repeatedReport listed ∧
        .bare "/dev/ttyUSB1" ∈ listed := by
  obtain ⟨listed, hlisted, hlists, hfind⟩ :=
    (listing_agrees (.ok repeatedReport)).2 repeatedReport rfl
  obtain ⟨found?, hfound, hmem⟩ := hfind "/dev/ttyUSB1"
  have hfirst : found? = some (.bare "/dev/ttyUSB1") := by
    have hlookup : findDevice (.ok repeatedReport) "/dev/ttyUSB1" =
        .ok (some (.bare "/dev/ttyUSB1")) := by decide
    rw [hlookup] at hfound
    exact (Except.ok.inj hfound).symm
  exact ⟨rfl, listed, hlisted, hlists, ((hmem _).mp hfirst).1⟩

end SerialLine
