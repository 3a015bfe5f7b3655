import OpGraph.Proofs.Config.Layers

namespace OpGraph

/-! What becomes of texts that are no configuration.  They are refused, and as the text of a file they
set nothing, unless reading them does not come to an end. -/

theorem ConfigError.exists_parse {reason : ConfigError} (ends : ∀ fault, reason ≠ .fatal fault) :
    ∃ message, reason.diagnostic = .parse message := by
  cases reason with
  | malformed error => exact ⟨_, rfl⟩
  | unknownPolicy text => exact ⟨_, rfl⟩
  | fatal fault => exact absurd rfl (ends fault)

namespace Config

variable {read : Path → FileResult} {environment : Environment} {path : Path} {text : String}
  {passed : List Path} {settings : Settings} {used : Notice} {fault : ConfigFault}

theorem ofText_of_sets (sets : Sets (some (path, text)) settings used) :
    ofText text = .ok settings.config ∨ settings = .nothing ∧
      ∃ reason, ofText text = .error reason ∧ ∀ fault, reason ≠ .fatal fault := by
  cases sets with
  | accepted object named =>
      exact .inl ((ofText_of_object object).trans (override_of_named named))
  | refused noObject ends =>
      exact .inr ⟨rfl, _, ofText_of_no_object noObject, ends⟩
  | unknownPolicy object given unknown =>
      have refused := (ofText_of_object object).trans (override_of_unknown given unknown)
      exact .inr ⟨rfl, _, refused, nofun⟩

theorem exists_sets_of_ends (path : Path) (ends : ∀ fault, ¬ Members.StopsAt text fault) :
    ∃ settings used, Sets (some (path, text)) settings used :=
  exists_sets path fun fault failed => ends fault (Members.ofText_eq_fatal_iff.mp failed)

theorem ofText_of_stopsAt (stops : Members.StopsAt text fault) :
    ofText text = .error (.fatal fault) :=
  ofText_of_no_object (Members.ofText_eq_fatal_iff.mpr stops)

theorem ofText_eq_fatal_iff :
    ofText text = .error (.fatal fault) ↔ Members.StopsAt text fault := by
  refine ⟨fun failed => ?_, ofText_of_stopsAt⟩
  by_cases stops : ∃ fault, Members.StopsAt text fault
  · obtain ⟨other, stops⟩ := stops
    cases failed.symm.trans (ofText_of_stopsAt stops)
    exact stops
  · obtain ⟨settings, used, sets⟩ := exists_sets_of_ends [] (not_exists.mp stops)
    obtain accepted | ⟨-, reason, refused, ends⟩ := ofText_of_sets sets
    · cases failed.symm.trans accepted
    · cases failed.symm.trans refused
      exact absurd rfl (ends fault)

theorem load_of_stopsAt (consults : Consults read environment.candidates passed (some (path, text)))
    (stops : Members.StopsAt text fault) : (load read environment).result = .error fault := by
  simp [load, findFile_of_consults consults, applyFile, ofText_of_stopsAt stops]

theorem load_of_ends (consults : Consults read environment.candidates passed (some (path, text)))
    (ends : ∀ fault, ¬ Members.StopsAt text fault) :
    ∃ config, (load read environment).result = .ok config ∧
      ∀ reason, ofText text = .error reason →
        (load (fun _ => .missing) environment).result = .ok config := by
  obtain ⟨settings, used, sets⟩ := exists_sets_of_ends path ends
  obtain ⟨layers, -, -, same⟩ := exists_layers consults sets
  refine ⟨layers.config, congrArg Loaded.result layers.load_eq, fun reason failed => ?_⟩
  have nothing : layers.settings = .nothing := by
    obtain accepted | ⟨nothing, -⟩ := ofText_of_sets sets
    · cases failed.symm.trans accepted
    · exact same.trans nothing
  let nowhere : Layers (fun _ => .missing) environment :=
    { layers with
      passed := environment.candidates
      file := none
      settings := .nothing
      used := .noFile
      consults := .nothing fun _ _ _ => nofun
      sets := .noFile }
  calc
    (load (fun _ => .missing) environment).result = .ok nowhere.config :=
      congrArg Loaded.result nowhere.load_eq
    _ = .ok layers.config := by simp only [Layers.config, nothing]; rfl

/-- Texts are accepted or refused, and files with them are used or make no difference, unless
reading the text stops; and then that is how everything ends. -/
theorem reading_tolerant (text : String) :
    (∀ fault, ofText text = .error (.fatal fault) ↔ Members.StopsAt text fault) ∧
    ((∀ fault, ¬ Members.StopsAt text fault) → (∃ config, ofText text = .ok config) ∨
      ∃ reason message, ofText text = .error reason ∧ reason.diagnostic = .parse message) ∧
    ∀ read environment passed path,
      Consults read environment.candidates passed (some (path, text)) →
        (∀ fault, (load read environment).result = .error fault ↔ Members.StopsAt text fault) ∧
        ((∀ fault, ¬ Members.StopsAt text fault) →
          ∃ config, (load read environment).result = .ok config ∧
            ∀ reason, ofText text = .error reason →
              (load (fun _ => .missing) environment).result = .ok config) := by
  refine ⟨fun _ => ofText_eq_fatal_iff, fun ends => ?_,
    fun read environment passed path consults => ⟨fun fault => ?_, load_of_ends consults⟩⟩
  · obtain ⟨settings, used, sets⟩ := exists_sets_of_ends [] ends
    obtain accepted | ⟨-, reason, refused, ends⟩ := ofText_of_sets sets
    · exact .inl ⟨_, accepted⟩
    · obtain ⟨message, parse⟩ := ConfigError.exists_parse ends
      exact .inr ⟨reason, message, refused, parse⟩
  · refine ⟨fun failed => ?_, load_of_stopsAt consults⟩
    by_cases stops : ∃ fault, Members.StopsAt text fault
    · obtain ⟨other, stops⟩ := stops
      cases failed.symm.trans (load_of_stopsAt consults stops)
      exact stops
    · obtain ⟨config, loaded, -⟩ := load_of_ends consults (not_exists.mp stops)
      cases failed.symm.trans loaded

def strayBracket : String := "\x7b\"a\":]\x7d"

/-- A closing bracket in the place of a value is neither accepted nor refused, and as the text of a
file it is not passed over. -/
theorem strayBracket_not_tolerated : ¬ Members.StopsAt strayBracket .unclosed ∧
    (¬ ∃ config, ofText strayBracket = .ok config) ∧
    (¬ ∃ reason message,
      ofText strayBracket = .error reason ∧ reason.diagnostic = .parse message) ∧
    ¬ ∃ config, (load (FileTree.ofPaths
        [(candidateIn "/home/user/.config", .file (Utf8.encode strayBracket))]).read
      ⟨Utf8.encode "/home/user", none, none, none, none⟩).result = .ok config := by
  have stops : ofText strayBracket = .error (.fatal (.unskippable .blockClose)) := by
    decide +kernel
  have loaded : (load (FileTree.ofPaths
        [(candidateIn "/home/user/.config", .file (Utf8.encode strayBracket))]).read
      ⟨Utf8.encode "/home/user", none, none, none, none⟩).result =
        .error (.unskippable .blockClose) := by
    decide +kernel
  simp [← ofText_eq_fatal_iff, stops, loaded, ConfigError.diagnostic]

end Config

end OpGraph
