import EnvAudit.CommandLine
import EnvAudit.Proofs.Audit.Completion
import EnvAudit.Proofs.Template.Listing

/-! What the command that makes a template leaves. The text that it prints or writes lists the variables that are
declared and those that are used. Read back, it declares just these, exactly when every used name is one that a
declaration file can declare. -/
namespace EnvAudit.CommandLine
open Logged Declaration

theorem mem_names_foldl {kept items : List Declaration} {name : String} :
    name ∈ names (items.foldl (fun kept next => if declares kept next.name then kept else kept ++ [next]) kept) ↔
      name ∈ names kept ∨ name ∈ names items := by
  induction items generalizing kept with
  | nil => simp [names]
  | cons next items ih =>
    rw [List.foldl_cons, ih]
    by_cases known : declares kept next.name = true
    · have listed : next.name ∈ names kept := List.contains_iff_mem.mp known
      rw [if_pos known]
      constructor
      · rintro (early | late)
        · exact .inl early
        · exact .inr (List.mem_cons_of_mem _ late)
      · rintro (early | late)
        · exact .inl early
        · rcases List.mem_cons.mp late with rfl | late
          · exact .inl listed
          · exact .inr late
    · rw [if_neg known]
      simp [names, or_assoc]

theorem mem_names_templateVariables {findings : Findings} {name : String} :
    name ∈ names (templateVariables findings) ↔
      name ∈ names findings.declared ∨ name ∈ Usage.names findings.usages := by
  rw [templateVariables, mem_names_foldl]
  simp [names, Usage.names]

def Ending.Carries (ending : Ending) (text : String) : Prop :=
  ending.written = none ∧ ending.output = text ++ "\n" ∨ ∃ file, ending.written = some ⟨file, text⟩

theorem carries_of_sync {disk : Disk} {target : Target} {writes : Bool} {output : Option String} {ending : Ending}
    (gives : Gives (sync disk target writes output) ending) (succeeded : ending.code = 0) :
    ∃ config findings, Gives (loadTarget disk target) config ∧ Gives (Project.audit disk config) findings ∧
      ending.Carries (Template.generate {} (templateVariables findings)) := by
  obtain ⟨config, loaded, gives⟩ := gives.of_bind
  obtain ⟨findings, audited, gives⟩ := gives.of_bind
  refine ⟨config, findings, loaded, audited, ?_⟩
  dsimp only at gives
  split at gives
  · cases (yields_pure _).eq_ok gives
    exact .inl ⟨rfl, rfl⟩
  · split at gives
    · cases (yields_pure _).eq_ok gives
      cases succeeded
    · cases (yields_pure _).eq_ok gives
      exact .inr ⟨_, rfl⟩

/-- Whether a text is read as a declaration file without a fault and declares just the names with a property. -/
def DeclaresJust (text : String) (listed : String → Prop) : Prop :=
  ∀ file, ∃ result, parse text.toList file = .ok result ∧ result.faults = [] ∧
    ∀ name, name ∈ names result.declared ↔ listed name

/-- A template that a project gets is read without a fault and declares just the names that the declaration files
declare and the sources read, exactly when all names that the sources read are valid. -/
theorem sync_declares_iff {disk : Disk} {target : Target} {writes : Bool} {output : Option String} {ending : Ending}
    (gives : Gives (sync disk target writes output) ending) (succeeded : ending.code = 0) :
    ∃ config found framework survey text, Gives (loadTarget disk target) config ∧
      Gives (readFiles disk (.ofString config.root) config.declarationFiles) found ∧
      Gives (Usage.survey disk (.ofString config.root) config.sources config.exclude framework false) survey ∧
      ending.Carries text ∧
      (DeclaresJust text (fun name => name ∈ names found.declared ∨ name ∈ Usage.names survey.usages) ↔
        ∀ name ∈ Usage.names survey.usages, isName name.toList = true) := by
  obtain ⟨config, findings, loaded, audited, carries⟩ := carries_of_sync gives succeeded
  obtain ⟨found, framework, survey, _, read, scanned, declared, used, _⟩ := Project.parts_of_audit audited
  have listed {name : String} : name ∈ names (templateVariables findings) ↔
      name ∈ names found.declared ∨ name ∈ Usage.names survey.usages := by
    rw [mem_names_templateVariables, declared, used]
  refine ⟨config, found, framework, survey, _, loaded, read, scanned, carries, ?_⟩
  constructor
  · intro just name member
    obtain ⟨result, ok, _, exactly⟩ := just ".env"
    exact (reports_of_ofLines ok).isName_of_mem ((exactly name).mpr (.inr member))
  · intro valid file
    have all : ∀ d ∈ templateVariables findings, isName d.name.toList = true := by
      intro d member
      rcases listed.mp (List.mem_map_of_mem member) with early | late
      · exact isName_of_readFiles read early
      · exact valid d.name late
    obtain ⟨result, ok, faultless, exactly⟩ := Template.parse_generate all file
    exact ⟨result, ok, faultless, fun name => (exactly name).trans listed⟩

def listingDisk : Disk where
  tree := .directory
    [("env-doctor.json", .file (Text.encodeUtf8 "\x7b\"envFiles\":[\"/.env\"]\x7d".toList)),
      (".env", .file (Text.encodeUtf8 "# Service\nexport API_URL=\"http://a b\"\n".toList))]
  working := ⟨"/", []⟩

def listingTarget : Target := ⟨"/gone", some "/env-doctor.json"⟩

def listingText : String :=
  "# Environment Variables Template\n# Copy this file to .env and fill in the values\n\n" ++
    "# Api\nAPI_URL=https://example.com\n"

theorem sync_declares_listing : ∃ (ending : Ending) (found : Declarations) (survey : Usage.Survey) (text : String),
    (sync listingDisk listingTarget false none).outcome.1 = .ok ending ∧ ending.output = listingText ++ "\n" ∧
    ending.Carries text ∧
    (DeclaresJust text (fun name => name ∈ names found.declared ∨ name ∈ Usage.names survey.usages) ↔
      ∀ name ∈ Usage.names survey.usages, isName name.toList = true) := by
  have done : (sync listingDisk listingTarget false none).outcome.1.toOption.any
      (fun ending => ending.code == 0 && ending.output == listingText ++ "\n") = true := by
    decide +kernel
  cases made : (sync listingDisk listingTarget false none).outcome.1 with
  | error failure =>
    rw [made] at done
    cases done
  | ok ending =>
    rw [made] at done
    obtain ⟨succeeded, output⟩ := Bool.and_eq_true_iff.mp done
    obtain ⟨_, found, _, survey, text, _, _, _, carries, exactly⟩ :=
      sync_declares_iff (gives_of_outcome made) (beq_iff_eq.mp succeeded)
    exact ⟨ending, found, survey, text, rfl, beq_iff_eq.mp output, carries, exactly⟩

end EnvAudit.CommandLine
