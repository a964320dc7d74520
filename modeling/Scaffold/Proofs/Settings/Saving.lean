import Scaffold.Files.Document
import Scaffold.Proofs.Files.Resolution
import Scaffold.Proofs.Files.Tree
import Scaffold.Proofs.Toml.Documents
import Scaffold.Proofs.Yaml.Documents

/-!
# Saved configurations

A configuration that is saved to a file is the one that is loaded from it. For either format, what
is written is read back whatever texts the settings are (`Config.ofText_text`), so it is up to the
file system alone whether a configuration can be saved (`Config.isKept_of_write`); under a file name
it always can, unless a directory has the name (`FileTree.IsFileName.write`).
-/

namespace Scaffold

namespace Config

variable {c : Config} {name : String} {set : Config → Option String → Config}
  {value : Option String} {rest : List (String × Option String)}

/-- The names of the settings. -/
def names : List String :=
  ["environment", "types_import_path", "client_import_path", "framework", "output_dir",
    "catalog_path"]

/-- The settings of a configuration have these names. -/
theorem map_entries (c : Config) : c.entries.map Prod.fst = names := rfl

/-! ## TOML -/

/-- The names are keys without quotes. -/
theorem isKey_of_mem (h : name ∈ names) : Toml.IsKey name := by
  simp only [names, List.mem_cons, List.not_mem_nil, or_false] at h
  rcases h with rfl | rfl | rfl | rfl | rfl | rfl <;>
    exact ⟨by decide, List.all_eq_true.1 (by decide)⟩

/-- A setting of a TOML document is put into the configuration; one that is missing stays absent. -/
theorem ofEntries?_cons (hset : fields.lookup name = some set) (habsent : set c none = c) :
    ofEntries? c (Toml.texts ((name, value) :: rest)) =
      ofEntries? (set c value) (Toml.texts rest) := by
  cases value with
  | none => rw [habsent]; rfl
  | some s =>
    change ofEntries? c ((name, .text s) :: Toml.texts rest) = _
    rw [ofEntries?.eq_def]
    simp only [hset]

/-- A configuration is read back from TOML. -/
theorem ofText_toml (c : Config) : ofText .toml (c.text .toml) = .ok c := by
  have hkeys : ∀ e ∈ c.entries, Toml.IsKey e.1 := fun e he =>
    isKey_of_mem (map_entries c ▸ List.mem_map_of_mem he)
  have hnodup : (c.entries.map Prod.fst).Nodup := by rw [map_entries]; decide
  have hentries : ofEntries? {} (Toml.texts c.entries) = some c := by
    rw [entries]
    rw [ofEntries?_cons rfl rfl, ofEntries?_cons rfl rfl, ofEntries?_cons rfl rfl,
      ofEntries?_cons rfl rfl, ofEntries?_cons rfl rfl, ofEntries?_cons rfl rfl]
    rfl
  rw [ofText, text]
  simp only [Toml.ofText?_write hkeys hnodup, Option.bind_some, hentries, Option.elim_some]

/-! ## YAML -/

/-- The names consist of letters. -/
theorem isName_of_mem (h : name ∈ names) : Yaml.IsName name := by
  simp only [names, List.mem_cons, List.not_mem_nil, or_false] at h
  rcases h with rfl | rfl | rfl | rfl | rfl | rfl <;>
    exact ⟨by decide, List.all_eq_true.1 (by decide), by decide⟩

/-- The settings as the fields of a record without anchors. -/
def recordFields : Yaml.Decoder.Fields Config :=
  fields.map fun field => (field.1, Yaml.Decoder.put (.optional [] (.text [])) field.2)

/-- A configuration is read from the entries of its mapping. -/
theorem readFields_entries (c : Config) (budget : Nat) :
    Yaml.Decoder.readFields [] recordFields [] {} (c.entries.map Yaml.entryNode) budget =
      some (c, budget) := by
  rw [entries, Yaml.Decoder.readFields_entry rfl (by decide),
    Yaml.Decoder.readFields_entry rfl (by decide), Yaml.Decoder.readFields_entry rfl (by decide),
    Yaml.Decoder.readFields_entry rfl (by decide), Yaml.Decoder.readFields_entry rfl (by decide),
    Yaml.Decoder.readFields_entry rfl (by decide)]
  rfl

/-- A configuration is read back from YAML. -/
theorem ofText_yaml (c : Config) : ofText .yaml (c.text .yaml) = .ok c := by
  have hnames : ∀ e ∈ c.entries, Yaml.IsName e.1 := fun e he =>
    isName_of_mem (map_entries c ▸ List.mem_map_of_mem he)
  have hdocument := Yaml.ofText?_write (show c.entries ≠ [] from List.cons_ne_nil _ _) hnames
  have hread (budget : Nat) :
      decoder [] (.mapping {} (c.entries.map Yaml.entryNode)) budget = some (c, budget) :=
    readFields_entries c budget
  rw [ofText, text]
  simp only [Yaml.Decoder.run, hdocument, hread, Option.map_some, Option.elim_some]

/-- What is written for a configuration is read as the configuration. -/
theorem ofText_text (f : Format) (c : Config) : ofText f (c.text f) = .ok c := by
  cases f with
  | yaml => exact ofText_yaml c
  | toml => exact ofText_toml c

end Config

/-! ## Files -/

namespace FileTree

/-- What a file can be called. -/
structure IsFileName (name : String) : Prop where
  nonempty : name ≠ ""
  no_slash : '/' ∉ name.toList
  no_zero : '\x00' ∉ name.toList
  not_dot : name ≠ "."
  not_up : name ≠ ".."
  short : name.utf8ByteSize ≤ maxName

section
variable {t t' : FileTree} {name text s : String} {p : Path}

/-- A file name is a path of one piece that starts in the working directory. -/
theorem IsFileName.ofText (h : IsFileName name) : Path.ofText name = ⟨.working, [name]⟩ := by
  have hsplit : Path.split name.toList = [name] := by
    rw [Path.split_of_not_mem h.no_slash, String.ofList_toList]
  rw [Path.ofText]
  split
  · rename_i heq
    exact absurd (by simp [heq]) h.no_slash
  · rename_i heq
    exact absurd (String.toList_inj.1 heq) h.not_dot
  · rename_i heq
    exact absurd (by simp [heq]) h.no_slash
  · rw [hsplit]

/-- A file with any name can be written, unless a directory has the name. -/
theorem IsFileName.write (h : IsFileName name)
    (hdir : t.get? (t.working ++ [name]) ≠ some .directory) (s : String) :
    ∃ t', t.write (.ofText name) s = .ok t' := by
  have htext : (Path.mk .working [name]).text = name := by simp [Path.text]
  have hlong : ¬maxPath ≤ name.utf8ByteSize := Nat.not_le.2 (Nat.lt_of_le_of_lt h.short (by decide))
  have hfind : t.find (.ofText name) = t.walk t.working [name] := by
    simp only [FileTree.find, h.ofText, htext]
    rw [if_neg (by simpa using h.no_zero), if_neg (by simpa using h.nonempty), if_neg hlong,
      if_neg (by decide)]
  rw [FileTree.write, hfind, walk, if_neg (by simp [Path.isIdle, h.nonempty, h.not_dot]),
    if_neg (by simp [h.not_up]), if_neg (Nat.not_lt.2 h.short)]
  cases hget : t.get? (t.working ++ [name]) with
  | none => exact ⟨_, rfl⟩
  | some e =>
    cases e with
    | directory => exact absurd hget hdir
    | file content => exact ⟨_, rfl⟩

/-- Where one text can be written, another one can. -/
theorem write_of_write (h : t.write p s = .ok t') (s' : String) :
    ∃ t'', t.write p s' = .ok t'' := by
  obtain ⟨found, place, hfind, hplace, -⟩ := write_eq_ok_iff.1 h
  exact ⟨_, write_eq_ok_iff.2 ⟨found, place, hfind, hplace, rfl⟩⟩

/-- A text that was written to a file is read from it. -/
theorem read_of_write (h : t.write p s = .ok t') : t'.read p = .ok s := by
  obtain ⟨found, place, hfind, hplace, rfl⟩ := write_eq_ok_iff.1 h
  rw [read, (find_put hfind hplace _).1]

end

end FileTree

namespace Config

/-- In a workspace, a configuration can be saved to a file, and loading the file gives it back. -/
def IsKept (c : Config) (w : Workspace) (path : String) : Prop :=
  ∃ w', (save path c : StateM Workspace _).run w = (.ok (), w') ∧
    (load path : StateM Workspace _).run w' = (.ok c, w')

variable {c : Config} {w : Workspace} {path s : String} {t : FileTree}

/-- Saving puts the text of a configuration where the file system takes it. -/
theorem run_save (h : w.tree.write (.ofText path) (c.text (.ofPath path)) = .ok t) :
    (save path c : StateM Workspace _).run w = (.ok (), { w with tree := t }) := by
  have hwrite : (Shell.write (.ofText path) (c.text (.ofPath path)) : StateM Workspace _).run w =
      (.ok (), { w with tree := t }) := by
    simp only [Shell.write, Workspace.change, StateT.run, h]
  rw [save, StateT.run_bind, hwrite]
  rfl

/-- Loading takes the configuration from the text of a file. -/
theorem run_load (h : w.tree.read (.ofText path) = .ok s) :
    (load path : StateM Workspace _).run w = (ofText (.ofPath path) s, w) := by
  have hread : (Shell.read (.ofText path) : StateM Workspace _).run w = (.ok s, w) :=
    congrArg (·, w) h
  rw [load, StateT.run_bind, hread]
  rfl

/-- A configuration is kept in a file that takes a text. -/
theorem isKept_of_write (c : Config) (h : w.tree.write (.ofText path) s = .ok t) :
    c.IsKept w path := by
  obtain ⟨t', hwrite⟩ := FileTree.write_of_write h (c.text (.ofPath path))
  refine ⟨{ w with tree := t' }, run_save hwrite, ?_⟩
  rw [run_load (FileTree.read_of_write hwrite), ofText_text]

end Config

/-- A configuration that is saved to a file is loaded from it, in YAML and in TOML, whatever texts
its settings are. It can be saved wherever some text can be written, and under every file name that
no directory has. -/
theorem saved_config_loads (c : Config) (w : Workspace) :
    (∀ path s t, w.tree.write (.ofText path) s = .ok t → c.IsKept w path) ∧
    ∀ name, FileTree.IsFileName name → w.tree.get? (w.tree.working ++ [name]) ≠ some .directory →
      c.IsKept w name := by
  refine ⟨fun path s t h => c.isKept_of_write h, fun name hname hdir => ?_⟩
  obtain ⟨t, hwrite⟩ := hname.write hdir ""
  exact c.isKept_of_write hwrite

/-- Settings that look like other things than texts, settings with breaks and an empty one are kept,
in either format, in the working directory and outside of it. -/
theorem awkward_configs_load :
    FileTree.IsFileName "schedgen.yaml" ∧ FileTree.IsFileName "schedgen.toml" ∧
      Config.IsKept { environment := some "null", framework := some "~" } { tree := .empty }
        "schedgen.yaml" ∧
      Config.IsKept { outputDir := some " a\r\nb\u2028" } { tree := .empty } "schedgen.toml" ∧
      Config.IsKept { catalogPath := some "" } { tree := .empty } "../kept.toml" := by
  have hyaml : FileTree.IsFileName "schedgen.yaml" := by constructor <;> decide
  have htoml : FileTree.IsFileName "schedgen.toml" := by constructor <;> decide
  have hway : FileTree.empty.find (.ofText "../kept.toml") = .ok (.free ["kept.toml"] false) := by
    decide
  have hwrite : FileTree.empty.write (.ofText "../kept.toml") "" = .ok _ :=
    FileTree.write_eq_ok_iff.2 ⟨_, _, hway, rfl, rfl⟩
  exact ⟨hyaml, htoml, (saved_config_loads _ _).2 _ hyaml (by decide),
    (saved_config_loads _ _).2 _ htoml (by decide), (saved_config_loads _ _).1 _ _ _ hwrite⟩

end Scaffold
