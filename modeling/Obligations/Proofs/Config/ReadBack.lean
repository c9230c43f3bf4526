import Obligations.Config.Json
import Obligations.Explorer
import Obligations.Proofs.Calendar.ReadBack
import Obligations.Proofs.Fiscal.Standard
import Obligations.Proofs.Json.ReadBack
import Obligations.Proofs.Outcome

/-!
# Obligations — settings saved and loaded

Settings that can be used are written as a record, with their schedule as the list of its windows,
and loaded from the text of the record as the same settings. What is loaded can be used, wherever
the text comes from: it was checked, and its schedule was built from a list of windows.

A window can be written if its reveal reads back as text, which is so of every instant that is not
inside a leap second at an odd place; the standard schedule has no others, and neither has a
schedule that was loaded before.

* `Json.list?_map`, `SubmissionWindow.ofJson?_json`, `RevealSchedule.ofJson?_json`,
  `Config.ofJson?_json` — records decoded from what they are written as;
* `Config.plain_json` — the record is of the kind that is read back from its text;
* `RevealSchedule.Obtained`, `RevealSchedule.Obtained.writable` — where schedules come from;
* `Config.Usable` — what is known of settings that are loaded;
* `config_survives_saving` — what is saved is loaded, and what is loaded can be used.
-/

namespace Obligations

/-! ## Lists -/

namespace Json

variable {α : Type} {f : Json → Option α}

/-- A list is decoded item by item, so it is enough that each of its items is. -/
theorem list?_map {g : α → Json} {xs : List α} (h : ∀ x ∈ xs, f (g x) = some x) :
    (Json.array (xs.map g)).list? f = some xs := by
  unfold list?
  -- the items are decoded from the first to the last
  induction xs with
  | nil => rfl
  | cons x xs ih =>
    obtain ⟨hx, hxs⟩ := List.forall_mem_cons.mp h
    simp only [List.map_cons, List.mapM_cons, hx, ih hxs]
    rfl

/-- Whatever is in a decoded list was decoded from something. This is what is known of the windows
of a schedule that was loaded. -/
theorem exists_of_mem_mapM {js : List Json} {xs : List α} (h : js.mapM f = some xs) {x : α}
    (hx : x ∈ xs) : ∃ j, f j = some x := by
  induction js generalizing xs with
  | nil =>
    injection h with h
    exact absurd hx (h ▸ List.not_mem_nil)
  | cons j js ih =>
    simp only [List.mapM_cons, Option.bind_eq_bind, Option.bind_eq_some_iff, Option.pure_def,
      Option.some.injEq] at h
    -- the first item and the others were all decoded
    obtain ⟨y, hy, ys, hys, rfl⟩ := h
    rcases List.mem_cons.mp hx with rfl | hx
    · exact ⟨j, hy⟩
    · exact ih hys hx

theorem exists_of_mem_list? {j : Json} {xs : List α} (h : j.list? f = some xs) {x : α}
    (hx : x ∈ xs) : ∃ j, f j = some x := by
  -- nothing but an array is decoded as a list
  cases j with
  | array items => exact exists_of_mem_mapM h hx
  | _ => exact nomatch h

/-- A list of texts can be read from its text. -/
theorem plain_strings {room : Nat} (g : α → String) (xs : List α) :
    Plain (room + 1) (.array (xs.map fun x => .string (g x))) := by
  refine .array fun j hj => ?_
  obtain ⟨x, -, rfl⟩ := List.mem_map.mp hj
  exact .string (g x)

end Json

/-- A category is written as its name and found again by it. -/
theorem Category.ofJson?_json (c : Category) : Category.ofJson? c.json = some c :=
  Category.ofName?_name c

/-- Listing a set of keys and collecting them again changes nothing. -/
theorem KeySet.ofList_toList (s : KeySet) : KeySet.ofList s.toList = s :=
  KeySet.ext_mem fun k => by simp

theorem Json.keySet?_toList (s : KeySet) :
    (Json.array (s.toList.map Json.string)).keySet? = some s := by
  have hlist : (Json.array (s.toList.map Json.string)).list? string? = some s.toList :=
    list?_map fun _ _ => rfl
  rw [keySet?, hlist, Option.map_some, KeySet.ofList_toList]

/-! ## Windows and schedules -/

namespace SubmissionWindow

variable {w : SubmissionWindow}

/-- The year has 32 bits, and the reveal is read from its text. -/
structure IsWritable (w : SubmissionWindow) : Prop where
  year   : isInt32 w.year = true
  reveal : Instant.ofText? w.reveal.text = some w.reveal

/-- A window is decoded from the record it is written as, field by field. -/
theorem ofJson?_json (h : w.IsWritable) (hquarter : w.quarter ≤ 4) :
    ofJson? w.json = some w := by
  have hyear : (Json.int w.year).int32? = some w.year := if_pos h.year
  have hsmall : 0 ≤ (w.quarter : Int) ∧ (w.quarter : Int).toNat < size32 := by
    rw [size32]
    omega
  have hnat : (Json.nat w.quarter).nat32? = some w.quarter := if_pos hsmall
  have hend : Date.ofJson? w.periodEnd.json = some w.periodEnd := Date.ofText?_text w.periodEnd
  have hreveal : Instant.ofJson? w.reveal.json = some w.reveal := h.reveal
  -- every field is there once, so all of them are found
  have hslots : w.json.slots? ["fiscal_year", "fiscal_quarter", "period_end_date", "reveal_date"] =
      some [.present (.int w.year), .present (.nat w.quarter), .present w.periodEnd.json,
        .present w.reveal.json] := rfl
  rw [ofJson?, hslots]
  simp only [Option.bind_eq_bind, Option.bind_some, Json.Slot.required?, hyear, hnat, hend, hreveal]
  rfl

/-- The record of a window holds two integers and two texts, all of which are read back. -/
theorem plain_json {room : Nat} (h : w.IsWritable) (hquarter : w.quarter ≤ 4) :
    Json.Plain (room + 1) w.json := by
  have hyear := h.year
  rw [isInt32, decide_eq_true_eq] at hyear
  refine .object ?_
  simp only [List.forall_mem_cons]
  exact ⟨.integer ⟨by omega, by omega⟩, .integer ⟨by omega, by omega⟩, .string _, .string _,
    List.forall_mem_nil _⟩

/-- An instant that is not inside a leap second at an odd place can be written. -/
theorem isWritable_of_isPlain (hyear : isInt32 w.year = true) (hreveal : w.reveal.IsPlain) :
    w.IsWritable :=
  ⟨hyear, Instant.ofText?_text hreveal⟩

/-- What was decoded can be written again. -/
theorem isWritable_of_ofJson? {j : Json} (h : ofJson? j = some w) : w.IsWritable := by
  simp only [ofJson?, Option.bind_eq_bind, Option.bind_eq_some_iff] at h
  obtain ⟨slots, -, h⟩ := h
  split at h
  · next year quarter periodEnd reveal =>
    simp only [Option.bind_eq_some_iff] at h
    -- all four fields were given and decoded; of these the year and the reveal are of interest
    obtain ⟨y, hy, _, -, _, -, t, ht, h⟩ := h
    injection h with h
    subst h
    -- the year was decoded as a number of 32 bits
    have hyear : isInt32 y = true := by
      unfold Json.Slot.required? at hy
      split at hy
      · unfold Json.int32? at hy
        split at hy
        · split at hy
          · next hsize =>
            injection hy with hy
            exact hy ▸ hsize
          · contradiction
        · contradiction
      · contradiction
    -- the reveal was read from a text
    have hreveal : t.IsPlain := by
      unfold Json.Slot.required? at ht
      split at ht
      · unfold Instant.ofJson? at ht
        split at ht
        · exact Instant.isPlain_of_ofText? ht
        · contradiction
      · contradiction
    exact isWritable_of_isPlain hyear hreveal
  · contradiction

end SubmissionWindow

namespace RevealSchedule

variable {s : RevealSchedule}

/-- All windows can be written. -/
def IsWritable (s : RevealSchedule) : Prop := ∀ w ∈ s.windows, w.IsWritable

/-- A schedule is rebuilt from the list of its windows, whose order it is in already. -/
theorem ofJson?_json (h : s.IsWritable) : ofJson? s.json = some s := by
  have hlist : s.json.list? SubmissionWindow.ofJson? = some s.windows :=
    Json.list?_map fun w hw => SubmissionWindow.ofJson?_json (h w hw) (s.quarters w hw).2
  rw [ofJson?, hlist]
  show (ofWindows s.windows).toOption = some s
  rw [ofWindows_windows]
  rfl

/-- A schedule is one list around the records of its windows. -/
theorem plain_json {room : Nat} (h : s.IsWritable) : Json.Plain (room + 1 + 1) s.json := by
  refine .array fun j hj => ?_
  obtain ⟨w, hw, rfl⟩ := List.mem_map.mp hj
  exact SubmissionWindow.plain_json (h w hw) (s.quarters w hw).2

/-- So a schedule that was decoded can be written again, window by window. -/
theorem isWritable_of_ofJson? {j : Json} (h : ofJson? j = some s) : s.IsWritable := by
  simp only [ofJson?, Option.bind_eq_bind, Option.bind_eq_some_iff] at h
  obtain ⟨ws, hlist, h⟩ := h
  intro w hw
  -- the windows were decoded first, and then a schedule was made of them
  cases hws : ofWindows ws with
  | error fault =>
    rw [hws] at h
    contradiction
  | ok t =>
    rw [hws] at h
    obtain rfl : t = s := Option.some.inj h
    obtain ⟨j, hj⟩ := Json.exists_of_mem_list? hlist (mem_of_ofWindows hws hw)
    exact SubmissionWindow.isWritable_of_ofJson? hj

/-- **The standard schedule can be written**, whatever years it is for. -/
theorem isWritable_standard (first last : Int) : (standard first last).IsWritable := by
  intro w hw
  -- its year is one of the calendar, and midnight is no leap second
  obtain ⟨e, day, he, -, hwindow⟩ := standardWindow?_eq_some_iff.mp (mem_standard_iff.mp hw).2
  obtain ⟨hlow, hhigh⟩ := year_of_quarterEnd he
  refine SubmissionWindow.isWritable_of_isPlain ?_ ?_
  · rw [isInt32, decide_eq_true_eq]
    unfold Date.minYear at hlow
    unfold Date.maxYear at hhigh
    omega
  · rw [hwindow]
    exact Instant.isPlain_midnight day

/-- A schedule is made of windows that can be written, follows from the deadline, or was decoded. -/
inductive Obtained : RevealSchedule → Prop
  | listed {ws : List SubmissionWindow} {s : RevealSchedule} :
      (∀ w ∈ ws, w.IsWritable) → ofWindows ws = .ok s → Obtained s
  | standard (first last : Int) : Obtained (standard first last)
  | decoded {j : Json} {s : RevealSchedule} : ofJson? j = some s → Obtained s

/-- Wherever a schedule comes from, it can be written. -/
theorem Obtained.writable (h : s.Obtained) : s.IsWritable := by
  cases h with
  | listed hws hs => exact fun w hw => hws w (mem_of_ofWindows hs hw)
  | standard first last => exact isWritable_standard first last
  | decoded hj => exact isWritable_of_ofJson? hj

end RevealSchedule

/-! ## Settings -/

namespace Config

variable {c defaults : Config}

/-- Settings are decoded from the record they are written as, whatever the defaults are. -/
theorem ofJson?_json (h : c.schedule.IsWritable) : ofJson? defaults c.json = some c := by
  -- each field is decoded from what it is written as
  have hcategories : (Json.array (c.categories.map Category.json)).list? Category.ofJson? =
      some c.categories := Json.list?_map fun x _ => x.ofJson?_json
  have hreconciling : (Json.array (c.reconciling.map Category.json)).list? Category.ofJson? =
      some c.reconciling := Json.list?_map fun x _ => x.ofJson?_json
  have hkeys := Json.keySet?_toList c.baseKeys
  have hname : (Json.string c.unreportedName).string? = some c.unreportedName := rfl
  have hschedule := RevealSchedule.ofJson?_json h
  have hslots : c.json.slots? ["categories", "reconciling_categories", "base_filter_keys",
        "unreported_data_name", "reveal_schedule"] =
      some [.present (.array (c.categories.map Category.json)),
        .present (.array (c.reconciling.map Category.json)),
        .present (.array (c.baseKeys.toList.map Json.string)),
        .present (.string c.unreportedName), .present c.schedule.json] := rfl
  rw [ofJson?]
  simp only [hslots, Option.bind_eq_bind, Option.bind_some, Json.Slot.orElse?, hcategories,
    hreconciling, hkeys, hname, hschedule]
  rfl

/-- Settings are nested far less deep than what can be read. -/
theorem plain_json (h : c.schedule.IsWritable) : Json.Plain Json.maxDepth c.json := by
  show Json.Plain (125 + 1 + 1) c.json
  refine .object ?_
  simp only [List.forall_mem_cons]
  -- the three lists, the name and the schedule
  exact ⟨Json.plain_strings Category.name _, Json.plain_strings Category.name _,
    Json.plain_strings id _, .string _, RevealSchedule.plain_json h, List.forall_mem_nil _⟩

/-- Settings are decoded from the text they are written as. Nothing is taken from the defaults,
since every field is there. -/
theorem decode_text (h : c.schedule.IsWritable) : decode defaults c.json.text = .ok c := by
  rw [decode, Json.ofText?_text (plain_json h), Option.bind_some, ofJson?_json h]

/-- The checks pass just in case the settings are valid. -/
theorem validate_eq_ok : c.validate = .ok () ↔ c.IsValid := by
  rw [← fault?_eq_none_iff, validate]
  cases c.fault? <;> simp

/-- What is loaded was decoded from the text and is valid, and nothing else is asked for. -/
theorem ofText_eq_ok {s : String} :
    ofText defaults s = .ok c ↔ decode defaults s = .ok c ∧ c.IsValid := by
  rw [ofText, bind_eq_ok]
  constructor
  · -- the checks do not change what was decoded
    rintro ⟨c', hdecode, h⟩
    obtain ⟨⟨⟩, hvalid, h⟩ := bind_eq_ok.mp h
    injection h with h
    subst h
    exact ⟨hdecode, validate_eq_ok.mp (mapError_eq_ok.mp hvalid)⟩
  · rintro ⟨hdecode, hvalid⟩
    exact ⟨c, hdecode, bind_eq_ok.mpr ⟨(), mapError_eq_ok.mpr (validate_eq_ok.mpr hvalid), rfl⟩⟩

/-! ## Settings that can be used -/

/-- An explorer can be made of the settings, and its answers are about quarters of a year, each
with a window of its own. -/
structure Usable (c : Config) : Prop where
  categories  : c.categories ≠ []
  reconciling : ∀ x ∈ c.reconciling, x ∈ c.categories
  baseKeys    : yearKey ∈ c.baseKeys ∧ quarterKey ∈ c.baseKeys
  name        : ∃ ch ∈ c.unreportedName.toList, isBlank ch = false
  quarters    : ∀ w ∈ c.schedule.windows, 1 ≤ w.quarter ∧ w.quarter ≤ 4
  windows     : ∀ year quarter w, c.schedule.window? year quarter = some w ↔
                  w ∈ c.schedule.windows ∧ w.IsFor year quarter
  accepted    : ∃ e, Explorer.ofConfig c = .ok e ∧ e.config = c

theorem exists_explorer (h : c.IsValid) : ∃ e, Explorer.ofConfig c = .ok e ∧ e.config = c := by
  unfold Explorer.ofConfig
  -- an explorer is refused for a fault of its settings, and valid ones have none
  split
  · next fault hfault =>
    rw [(fault?_eq_none_iff c).mpr h] at hfault
    contradiction
  · exact ⟨_, rfl, rfl⟩

/-- Validity is all it takes: the rest is in the type of a schedule. -/
theorem IsValid.usable (h : c.IsValid) : c.Usable := by
  -- the conditions one by one, without losing the whole
  obtain ⟨hcategories, hreconciling, hyear, hquarter, hname⟩ := id h
  refine ⟨hcategories, hreconciling, ⟨hyear, hquarter⟩, ?_, c.schedule.quarters,
    fun _ _ _ => RevealSchedule.window?_eq_some, exists_explorer h⟩
  simpa [isBlankText] using hname

end Config

/-- **Settings survive being saved and loaded.** What is written of settings that can be used is
loaded as the same settings, and whatever is loaded can be used. -/
theorem config_survives_saving (defaults : Config) :
    (∀ c : Config, c.validate = .ok () → c.schedule.Obtained →
      Config.ofText defaults c.json.text = .ok c) ∧
    (∀ (s : String) (c : Config), Config.ofText defaults s = .ok c → c.Usable) := by
  refine ⟨fun c hvalid hschedule => ?_, fun s c h => ?_⟩
  · exact Config.ofText_eq_ok.mpr
      ⟨Config.decode_text hschedule.writable, Config.validate_eq_ok.mp hvalid⟩
  · exact (Config.ofText_eq_ok.mp h).2.usable

namespace Sample

def midYear : Date := ⟨2019, 6, 30, by decide, by decide, by decide, by decide⟩

/-- It is revealed in the middle of a leap second. -/
def leapWindow : SubmissionWindow :=
  ⟨2019, 3, midYear, ⟨midYear, 86399, 1500000000, by decide, by decide⟩⟩

/-- A window of a year before the first, which is written with a sign. -/
def ancientWindow : SubmissionWindow :=
  ⟨-5, 4, midYear, .midnight ⟨-5, 12, 30, by decide, by decide, by decide, by decide⟩⟩

def listedSchedule : RevealSchedule where
  windows   := [ancientWindow, leapWindow]
  ascending := by decide
  quarters  := by decide

/-- Categories are repeated, and the texts hold quotes, control characters and other signs. -/
def savedConfig : Config where
  categories     := [.agency, .award, .agency]
  reconciling    := [.agency, .agency]
  baseKeys       := .ofList [quarterKey, yearKey, "a \"key\"\n"]
  unreportedName := "\u00a0\u0001 Übrig \\ 余り"
  schedule       := listedSchedule

/-- Windows can be listed in any order. -/
theorem obtained_listedSchedule : listedSchedule.Obtained := by
  have hlisted : RevealSchedule.ofWindows [leapWindow, ancientWindow] = .ok listedSchedule :=
    ok_of_toOption (by decide)
  have hleap : leapWindow.IsWritable :=
    SubmissionWindow.isWritable_of_isPlain (by decide) (Or.inr (by decide))
  have hancient : ancientWindow.IsWritable :=
    SubmissionWindow.isWritable_of_isPlain (by decide) (Instant.isPlain_midnight _)
  exact .listed (by simp [hleap, hancient]) hlisted

end Sample

/-- A leap second, a year before the first and texts that need escaping come back from the text. -/
theorem config_survives_saving_sample :
    Config.ofText (.default 2026) Sample.savedConfig.json.text = .ok Sample.savedConfig ∧
    Sample.savedConfig.Usable := by
  obtain ⟨hloads, husable⟩ := config_survives_saving (.default 2026)
  have hload := hloads Sample.savedConfig (ok_of_toOption (by decide +kernel))
    Sample.obtained_listedSchedule
  exact ⟨hload, husable _ _ hload⟩

end Obligations
