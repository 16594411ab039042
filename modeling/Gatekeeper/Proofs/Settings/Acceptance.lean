import Gatekeeper.Proofs.Settings.Offer

/-!
# `Gatekeeper.Proofs.Settings.Acceptance`: which sources are accepted

Sources that can be read give settings together, and these are good unless records are to be kept
in a database without an address. But the environment is validated by itself before the file is
looked at. One that asks for a database and gives no address is refused, whatever the file says:
also if the file asks for the memory instead, or gives the address.

* `HasDatabase`: what is asked of settings.
* `Stranded`, `load_of_stranded`: the environments that are refused by themselves.
* `load_accepts_iff`: what is accepted, and where this is not what the sources give together.
-/

set_option autoImplicit false

namespace Gatekeeper.Settings

open Gatekeeper.Text

/-- A text with nothing but blanks in it, or with nothing in it. -/
def IsBlank (text : String) : Prop := ∀ c ∈ text.toList, isBlank c = true

/-- A database that records are to be kept in has an address. -/
def HasDatabase (settings : Settings) : Prop :=
  settings.storage = .postgres → ∃ postgres, settings.postgres = some postgres ∧
    ¬ IsBlank postgres.url

/-- The environment asks for a database and gives no address. -/
def Stranded (env : Environment) : Prop :=
  (env.text? "WARDEN_STORE_BACKEND").bind Backend.parse? = some .postgres ∧
    ∀ url, env.text? "WARDEN_PG_URL" = some url → IsBlank url

/-- Settings have their storage in order just if they have the database that they ask for. -/
theorem hasStorage_eq_true_iff {settings : Settings} :
    settings.hasStorage = true ↔ HasDatabase settings := by
  rw [hasStorage, HasDatabase]
  cases settings.storage with
  | memory => simp
  | postgres => cases settings.postgres <;> simp [IsBlank, ← isBlankText_eq_true_iff]

/-- An environment has its database by itself unless it is stranded. -/
theorem hasDatabase_merged_nothing (env : Environment) :
    HasDatabase (merged env .nothing) ↔ ¬ Stranded env := by
  rw [merged_nothing, HasDatabase, Stranded, Offer.onto, Offer.ofEnvironment]
  dsimp only
  cases (env.text? "WARDEN_STORE_BACKEND").bind Backend.parse? with
  | none => simp [standard]
  | some backend =>
    cases env.text? "WARDEN_PG_URL" <;> simp [standard, PostgresOverride.onto]

/-- A stranded environment is refused, whatever the file says. -/
theorem load_of_stranded {env : Environment} (hlegible : LegibleEnvironment env)
    (h : Stranded env) (files : Files) : load env files = .error .missingUrl := by
  have hrefused : ¬ (merged env .nothing).hasStorage = true := by
    rwa [hasStorage_eq_true_iff, hasDatabase_merged_nothing, not_not]
  rw [load, ofEnvironment_of_legible hlegible, validate, if_neg hrefused]
  rfl

/-- **Which sources are accepted.** Take an environment and a file that can be read.

* They are accepted exactly if the settings that they give together have their database and the
  environment is not stranded. Then these settings are loaded.
* They are refused only for want of a database.
* The settings that they give together decide it alone, unless these have their database and the
  environment is stranded nevertheless. -/
theorem load_accepts_iff {env : Environment} {files : Files} {given : Override}
    (hgives : Gives env files given) (henv : LegibleEnvironment env)
    (hfile : LegibleOverride given) :
    ((∃ settings, load env files = .ok settings) ↔
        HasDatabase (merged env given) ∧ ¬ Stranded env) ∧
      (∀ settings, load env files = .ok settings → settings = merged env given) ∧
      (∀ fault, load env files = .error fault → fault = .missingUrl) ∧
      (((∃ settings, load env files = .ok settings) ↔ HasDatabase (merged env given)) ↔
        ¬ (HasDatabase (merged env given) ∧ Stranded env)) := by
  have hload := load_of_legible hgives henv hfile
  -- The storage is checked twice: with the environment alone, and with the file applied.
  have hgood : (merged env .nothing).hasStorage ∧ (merged env given).hasStorage ↔
      HasDatabase (merged env given) ∧ ¬ Stranded env := by
    rw [hasStorage_eq_true_iff, hasStorage_eq_true_iff, hasDatabase_merged_nothing, and_comm]
  have haccepts : (∃ settings, load env files = .ok settings) ↔
      HasDatabase (merged env given) ∧ ¬ Stranded env := by
    rw [hload, ← hgood]
    split
    next h => exact iff_of_true ⟨_, rfl⟩ h
    next h =>
      refine iff_of_false ?_ h
      rintro ⟨settings, hok⟩
      cases hok
  refine ⟨haccepts, fun settings hok => ?_, fun fault herror => ?_, ?_⟩
  · rw [hload] at hok
    split at hok
    · exact (Except.ok.inj hok).symm
    · cases hok
  · rw [hload] at herror
    split at herror
    · cases herror
    · exact (Except.error.inj herror).symm
  · rw [haccepts, not_and]
    exact and_iff_left_iff_imp

/-- An address in the environment and a limit in the file. -/
theorem load_accepts_iff_limit : ∃ settings,
    load (environmentOf [("WARDEN_STORE_BACKEND", "pg"), ("WARDEN_PG_URL", "postgres://db"),
        ("WARDEN_BROKER_CONFIG", "f")])
      (fun _ => .ok (Utf8.encodeString "postgres:\n  max_connections: 3\n")) = .ok settings ∧
    settings.postgres = some ⟨"postgres://db", 3, 5000⟩ := by
  have hnamed : (environmentOf [("WARDEN_STORE_BACKEND", "pg"), ("WARDEN_PG_URL", "postgres://db"),
      ("WARDEN_BROKER_CONFIG", "f")]).text? "WARDEN_BROKER_CONFIG" = some "f" := by
    decide +kernel
  have hparsed : Override.parse? "postgres:\n  max_connections: 3\n" =
      some { Override.nothing with postgres := some ⟨none, some 3, none⟩ } := by decide +kernel
  obtain ⟨haccepts, hmerged, -⟩ := load_accepts_iff (.ofText _ hnamed hparsed)
    ⟨by decide +kernel, by decide +kernel, by decide +kernel, by decide +kernel⟩
    ⟨legible_none, legible_none, legible_none⟩
  obtain ⟨settings, hload⟩ := haccepts.mpr
    ⟨hasStorage_eq_true_iff.mp (by decide +kernel),
      (hasDatabase_merged_nothing _).mp (hasStorage_eq_true_iff.mp (by decide +kernel))⟩
  refine ⟨settings, hload, ?_⟩
  rw [hmerged settings hload]
  decide +kernel

/-- The file asks for the memory, or it gives the address. In both cases the settings that the
sources give together have their database, and still they are refused. -/
theorem refuses_stranded :
    let env := environmentOf [("WARDEN_STORE_BACKEND", "postgres"), ("WARDEN_BROKER_CONFIG", "f")]
    ∀ text ∈ ["storage: memory\n", "postgres:\n  url: postgres://db\n"],
      let files : Files := fun _ => .ok (Utf8.encodeString text)
      ∃ given, Gives env files given ∧ LegibleEnvironment env ∧ LegibleOverride given ∧
        HasDatabase (merged env given) ∧ load env files = .error .missingUrl := by
  intro env text htext files
  have hnamed : env.text? "WARDEN_BROKER_CONFIG" = some "f" := by decide +kernel
  have henv : LegibleEnvironment env :=
    ⟨by decide +kernel, by decide +kernel, by decide +kernel, by decide +kernel⟩
  have hurl : env.text? "WARDEN_PG_URL" = none := by decide +kernel
  have hrefused : load env files = .error .missingUrl :=
    load_of_stranded henv ⟨by decide +kernel, by simp [hurl]⟩ files
  -- What each of the two files gives, and that it would do.
  obtain ⟨given, hparsed, hlegible, hgood⟩ : ∃ given, Override.parse? text = some given ∧
      LegibleOverride given ∧ (merged env given).hasStorage = true := by
    simp only [List.mem_cons, List.not_mem_nil, or_false] at htext
    rcases htext with rfl | rfl
    · exact ⟨{ Override.nothing with storage := some "memory" }, by decide +kernel,
        ⟨legible_none, legible_none, by decide +kernel⟩, by decide +kernel⟩
    · exact ⟨{ Override.nothing with postgres := some ⟨some "postgres://db", none, none⟩ },
        by decide +kernel, ⟨legible_none, legible_none, legible_none⟩, by decide +kernel⟩
  exact ⟨given, .ofText text hnamed hparsed, henv, hlegible, hasStorage_eq_true_iff.mp hgood,
    hrefused⟩

end Gatekeeper.Settings
