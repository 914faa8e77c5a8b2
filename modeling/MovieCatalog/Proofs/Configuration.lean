import MovieCatalog.Proofs.Toml.Documents

/-! A saved configuration is loaded as it was: its texts are written in quotes of one kind or the
other, and the reader undoes either. -/
namespace MovieCatalog.Config

variable {config : Config}

/-- The lines of a configuration's document. -/
def pairs (config : Config) : List Toml.Pair :=
  [⟨"storage_dir", Toml.writeText config.storageDir.toList, .text config.storageDir⟩,
    ⟨"db_file", Toml.writeText config.dbFile.toList, .text config.dbFile⟩,
    ⟨"http_port", Numeral.ofNat config.httpPort.toNat, .integer config.httpPort.toNat⟩,
    ⟨"bind_host", Toml.writeText config.host.toList, .text config.host⟩]

theorem toToml_eq (config : Config) :
    config.toToml = String.ofList (config.pairs.flatMap Toml.Pair.line) := by
  simp [toToml, pairs, Toml.Pair.line]

/-- Every text of the configuration can be stored. -/
structure Storable (config : Config) : Prop where
  storageDir : Toml.Storable config.storageDir.toList
  dbFile : Toml.Storable config.dbFile.toList
  host : Toml.Storable config.host.toList

theorem Storable.readable (h : config.Storable) : ∀ pair ∈ config.pairs, pair.Readable := by
  have htext : ∀ {s : String}, Toml.Storable s.toList →
      Toml.Spells (Toml.writeText s.toList) (.text s) := by
    intro s hs
    have hspells := Toml.spells_writeText hs
    rwa [String.ofList_toList] at hspells
  have hport : config.httpPort.toNat < 0x8000000000000000 :=
    Nat.lt_trans config.httpPort.toNat_lt (by decide)
  have hbare : ∀ key ∈ ["storage_dir", "db_file", "http_port", "bind_host"],
      key.toList ≠ [] ∧ key.toList.all Toml.isBare = true := by decide
  intro pair hpair
  have hkey : pair.key ∈ config.pairs.map Toml.Pair.key := List.mem_map_of_mem hpair
  refine ⟨(hbare _ hkey).1, List.all_eq_true.1 (hbare _ hkey).2, ?_⟩
  simp only [pairs, List.mem_cons, List.not_mem_nil, or_false] at hpair
  rcases hpair with rfl | rfl | rfl | rfl
  · exact htext h.storageDir
  · exact htext h.dbFile
  · exact Toml.spells_ofNat hport
  · exact htext h.host

theorem textMember_of_lookup {members : Toml.Members} {key value : String}
    (h : members.lookup key = some (.value (.text value))) (fallback : String) :
    textMember members key fallback = .ok value := by
  rw [textMember, h]

theorem numberMember_of_lookup {members : Toml.Members} {key : String} {value : UInt16}
    (h : members.lookup key = some (.value (.integer value.toNat))) (fallback : UInt16) :
    numberMember members key fallback = .ok value := by
  have hlt := value.toNat_lt
  rw [numberMember, h]
  simp only
  rw [if_pos (by omega), Int.toNat_natCast, UInt16.ofNat_toNat]

/-- The document of a configuration tells all of it, whatever it falls back to. -/
theorem ofToml_toToml (h : config.Storable) (fallback : Config) :
    fallback.ofToml config.toToml = .ok config := by
  have hkeys : (config.pairs.map Toml.Pair.key).Nodup := by
    change ["storage_dir", "db_file", "http_port", "bind_host"].Nodup
    decide
  have hdir : textMember (config.pairs.map Toml.Pair.member) "storage_dir" fallback.storageDir =
      .ok config.storageDir := textMember_of_lookup rfl _
  have hfile : textMember (config.pairs.map Toml.Pair.member) "db_file" fallback.dbFile =
      .ok config.dbFile := textMember_of_lookup rfl _
  have hport : numberMember (config.pairs.map Toml.Pair.member) "http_port" fallback.httpPort =
      .ok config.httpPort := numberMember_of_lookup rfl _
  have hhost : textMember (config.pairs.map Toml.Pair.member) "bind_host" fallback.host =
      .ok config.host := textMember_of_lookup rfl _
  rw [ofToml, toToml_eq, Toml.read_lines h.readable hkeys]
  simp only
  rw [hdir, hfile, hport, hhost]
  rfl

/-- A saved configuration is loaded as it was. -/
theorem load_save (fallback config : Config) (h : config.Storable) :
    load fallback (some config.save) = .ok config := by
  rw [load, save, Utf8.ofText, Utf8.decode?_encode]
  simp only
  rw [String.ofList_toList, ofToml_toToml h]

/-- Tabs, backslashes, quotes, comment marks and letters beyond U+007F come back as they were. -/
theorem load_save_of_quotes :
    (⟨"C:\\films\t#1 = é", "plans \"new\".db", 65535, "it's [::1]"⟩ : Config).Storable ∧
      load (default ⟨some "/home", none⟩)
          (some (save ⟨"C:\\films\t#1 = é", "plans \"new\".db", 65535, "it's [::1]"⟩)) =
        .ok ⟨"C:\\films\t#1 = é", "plans \"new\".db", 65535, "it's [::1]"⟩ := by
  have hstorable :
      (⟨"C:\\films\t#1 = é", "plans \"new\".db", 65535, "it's [::1]"⟩ : Config).Storable :=
    ⟨by decide, by decide, by decide⟩
  exact ⟨hstorable, load_save (default ⟨some "/home", none⟩) _ hstorable⟩

end MovieCatalog.Config
