import ContextIndex.Proofs.Command.Files
import ContextIndex.Proofs.Toml.Documents

/-!
# Written configurations are read

A configuration that is written to a new file is read from it as it was, but without the key of the
language model, on which the file does not depend (`Command.writeConfig_loadConfig`).

The names in the file are fixed and need no quotes (`Config.wellNamed`), so it is parsed to the pairs
and tables that were printed (`Toml.parse_print?`).  What is left is to read each table into its record,
field by field (`Config.ofFields_record`).  Every field of a record is in the file, but for two whose
default is that there is none: the database, which is in the file if it is set, and the key.
-/

namespace ContextIndex

namespace Config

/-- A configuration with another key of the language model. -/
def withKey (c : Config) (key : Option String) : Config :=
  { c with model := { c.model with key } }

/-- The numbers of a configuration. -/
def numbers (c : Config) : List Nat :=
  [c.sync.concurrency, c.sync.leaseSeconds, c.sync.waitSeconds, c.budget.maxTokens, c.budget.context]

/-! ## Records

What a reader makes of a field is computed, whatever the field holds: the equation of each is `rfl`. -/

section Records

open Toml (Shows ShowsPair ShowsSection ofFields ofFields_append ofFields_cons)

theorem ofFields_hostRecord {h : HostSettings} {fields : Toml.Fields}
    (hshows : List.Forall₂ ShowsPair [("api_url", .text h.apiRoot), ("branch", .text h.branch)] fields) :
    ofFields hostRecord {} fields = .ok h := by
  obtain _ | ⟨hroot, _ | ⟨hbranch, ⟨⟩⟩⟩ := hshows
  rw [ofFields_cons (hroot.readField rfl rfl), ofFields_cons (hbranch.readField rfl rfl)]
  rfl

theorem ofFields_syncRecord {s : SyncSettings} {fields : Toml.Fields}
    (hshows : List.Forall₂ ShowsPair [("concurrency", .number s.concurrency),
      ("lease_ttl_secs", .number s.leaseSeconds),
      ("webhook_lease_wait_secs", .number s.waitSeconds)] fields) :
    ofFields syncRecord {} fields = .ok s := by
  obtain _ | ⟨hfiles, _ | ⟨hlease, _ | ⟨hwait, ⟨⟩⟩⟩⟩ := hshows
  rw [ofFields_cons (hfiles.readField rfl rfl), ofFields_cons (hlease.readField rfl rfl),
    ofFields_cons (hwait.readField rfl rfl)]
  rfl

theorem ofFields_budgetRecord {b : BudgetSettings} {fields : Toml.Fields}
    (hshows : List.Forall₂ ShowsPair [("default_max_tokens", .number b.maxTokens),
      ("context_budget", .number b.context)] fields) :
    ofFields budgetRecord {} fields = .ok b := by
  obtain _ | ⟨hmax, _ | ⟨hcontext, ⟨⟩⟩⟩ := hshows
  rw [ofFields_cons (hmax.readField rfl rfl), ofFields_cons (hcontext.readField rfl rfl)]
  rfl

theorem ofFields_modelRecord {m : ModelSettings} {fields : Toml.Fields}
    (hshows : List.Forall₂ ShowsPair [("api_url", .text m.endpoint), ("model", .text m.name)] fields) :
    ofFields modelRecord {} fields = .ok { m with key := none } := by
  obtain _ | ⟨hendpoint, _ | ⟨hname, ⟨⟩⟩⟩ := hshows
  rw [ofFields_cons (hendpoint.readField rfl rfl), ofFields_cons (hname.readField rfl rfl)]
  rfl

theorem ofFields_topPairs {c : Config} {fields : Toml.Fields}
    (hshows : List.Forall₂ ShowsPair c.topPairs fields) :
    ofFields record {} fields = .ok { database := c.database, extractor := c.extractor } := by
  have hextractor {b : Config} {f : Toml.Name × Toml.Placed}
      (h : ShowsPair ("extractor", .text c.extractor.word) f) :
      Toml.readField record b f = .ok { b with extractor := c.extractor } := by
    refine h.readField rfl ?_
    cases c.extractor <;> rfl
  unfold topPairs at hshows
  split at hshows
  · next hnone =>
    obtain _ | ⟨hword, ⟨⟩⟩ := hshows
    rw [ofFields_cons (hextractor hword), hnone]
    rfl
  · next db hsome =>
    obtain _ | ⟨hdb, _ | ⟨hword, ⟨⟩⟩⟩ := hshows
    rw [ofFields_cons (hdb.readField rfl rfl), ofFields_cons (hextractor hword), hsome]
    rfl

theorem ofFields_record {c : Config} {fields : Toml.Fields}
    (hshows : Shows c.topPairs c.sections fields) :
    ofFields record {} fields = .ok (c.withKey none) := by
  obtain ⟨pairs, tables, rfl, hpairs, htables⟩ := hshows
  obtain _ | ⟨hhost, _ | ⟨hsync, _ | ⟨hbudget, _ | ⟨hmodel, ⟨⟩⟩⟩⟩⟩ := htables
  rw [ofFields_append (ofFields_topPairs hpairs),
    ofFields_cons (hhost.readField rfl fun _ => ofFields_hostRecord),
    ofFields_cons (hsync.readField rfl fun _ => ofFields_syncRecord),
    ofFields_cons (hbudget.readField rfl fun _ => ofFields_budgetRecord),
    ofFields_cons (hmodel.readField rfl fun _ => ofFields_modelRecord)]
  rfl

end Records

/-! ## Files -/

theorem wellNamed (c : Config) : Toml.WellNamed c.topPairs c.sections where
  names := by
    unfold topPairs
    split
    · simp only [sections, List.map]
      decide
    · simp only [sections, List.map]
      decide
  pairs := by
    simp only [sections, List.forall_mem_cons, List.map]
    refine ⟨by decide, by decide, by decide, by decide, nofun⟩

/-- A configuration can be written if all its numbers have a form. -/
theorem exists_write? {c : Config} :
    (∃ text, c.write? = some text) ↔ ∀ n ∈ c.numbers, n < signedBound := by
  have htop : ∀ p ∈ c.topPairs, p.2.Fits := by
    unfold topPairs
    split <;> simp
  rw [write?, Toml.exists_print?, and_iff_right htop]
  simp only [sections, numbers, List.forall_mem_cons, Toml.Plain.fits_text,
    Toml.Plain.fits_number, List.not_mem_nil, IsEmpty.forall_iff, implies_true, true_and, and_true,
    and_assoc]

theorem write?_withKey (c : Config) (key : Option String) : (c.withKey key).write? = c.write? :=
  rfl

/-- What is written is read as it was, but without a key. -/
theorem read_of_write? {c : Config} {text : String} (h : c.write? = some text) :
    read text = .ok (c.withKey none) := by
  obtain ⟨fields, hparse, hshows⟩ := Toml.parse_print? c.wellNamed h
  simp only [read, hparse, bind, Except.bind, ofFields_record hshows]
  rfl

end Config

namespace Command

/-- The key of the language model is in no file.  A configuration whose numbers fit 64 bits with a sign
is written to a new file, and it is read from there without its key.  A file is new if its path leads
nowhere and a text can be written to it. -/
theorem writeConfig_loadConfig (c : Config) :
    (∀ key, (c.withKey key).write? = c.write?) ∧
      ∀ (s : Surroundings) (d : Disk) (path : String),
        s.finds d path = false → (∃ d', s.writeText d path "" = .ok d') →
        (∀ n ∈ c.numbers, n < signedBound) →
        ∃ text d', c.write? = some text ∧
          (∀ key force, writeConfig s d path (c.withKey key) force = .ok d') ∧
          s.finds d' path = true ∧ s.readText d' path = .ok text ∧
          Config.read text = .ok (c.withKey none) ∧
          loadConfig s d' path = .ok ((c.withKey none).underEnvironment s.environment) := by
  refine ⟨c.write?_withKey, fun s d path hfresh hplace hnumbers => ?_⟩
  obtain ⟨text, htext⟩ := Config.exists_write?.mpr hnumbers
  obtain ⟨d', hwrite, hfinds, hread⟩ := exists_writeText hfresh hplace text
  have hconfig := Config.read_of_write? htext
  refine ⟨text, d', htext, fun key force => ?_, hfinds, hread, hconfig, ?_⟩
  · simp only [writeConfig, hfresh, Bool.false_and, Bool.false_eq_true, if_false,
      Config.write?_withKey, htext, hwrite]
    rfl
  · simp only [loadConfig, hfinds, if_true, hread, hconfig]

/-- Values with quotes of both kinds, a backslash, line breaks and characters that need escapes. -/
theorem writeConfig_loadConfig_quoted :
    let s : Surroundings := ⟨"/work", [], "", Http.unreachable, ⟨0⟩, false⟩
    let d := Disk.around ["work"]
    let c : Config :=
      { database := some "it\x27s \"here\"\\there", host := { branch := "one\r\ntwo\n\"\"\" \x27\x27\x27" },
        sync := { leaseSeconds := 9223372036854775807 },
        model := { name := "\x00\x7f\u2028", key := some "secret" } }
    s.finds d "repoctx.toml" = false ∧ (∃ d', s.writeText d "repoctx.toml" "" = .ok d') ∧
      (∀ n ∈ c.numbers, n < signedBound) ∧
      ∃ text d', writeConfig s d "repoctx.toml" c false = .ok d' ∧
        s.readText d' "repoctx.toml" = .ok text ∧ (c.withKey none).write? = some text ∧
        loadConfig s d' "repoctx.toml" = .ok (c.withKey none) := by
  intro s d c
  have hfresh : s.finds d "repoctx.toml" = false := by decide +kernel
  have hplace : ∃ d', s.writeText d "repoctx.toml" "" = .ok d' := by
    have hok : (s.writeText d "repoctx.toml" "").isOk = true := by decide +kernel
    cases hwrite : s.writeText d "repoctx.toml" "" with
    | ok d' => exact ⟨d', rfl⟩
    | error fault =>
      rw [hwrite] at hok
      cases hok
  have hnumbers : ∀ n ∈ c.numbers, n < signedBound := by decide
  obtain ⟨hkey, hround⟩ := writeConfig_loadConfig c
  obtain ⟨text, d', htext, hwrite, -, hread, -, hload⟩ := hround s d "repoctx.toml" hfresh hplace hnumbers
  exact ⟨hfresh, hplace, hnumbers, text, d', hwrite c.model.key false, hread, (hkey none).trans htext,
    hload⟩

end Command

end ContextIndex
