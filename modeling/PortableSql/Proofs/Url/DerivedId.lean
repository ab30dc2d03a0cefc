import PortableSql.Proofs.Url.Options

namespace PortableSql.DatabaseUrl

variable {text : String} {u : DatabaseUrl} {path : List Char}

theorem prefix_stripAll (ending : List Char) (fuel : Nat) (text : List Char) :
    stripAll ending fuel text <+: text := by
  fun_induction stripAll ending fuel text with
  | case1 => exact List.prefix_rfl
  | case2 _ _ rest hstrip ih =>
    rw [Chars.eq_of_stripEnd? hstrip]
    exact ih.trans (List.prefix_append rest ending)
  | case3 => exact List.prefix_rfl

theorem prefix_stripEndings (text : List Char) : stripEndings text <+: text :=
  (prefix_stripAll _ _ _).trans ((prefix_stripAll _ _ _).trans (prefix_stripAll _ _ _))

/-- A database has a name, which stands in the path. -/
theorem of_databaseName? {name : String} (h : databaseName? path = some name) :
    name ≠ "" ∧ ∀ c ∈ name.toList, c ∈ path := by
  unfold databaseName? at h
  dsimp only at h
  split at h
  next => cases h
  next =>
    split at h
    next => cases h
    next hempty =>
      obtain rfl := Option.some.inj h
      rw [List.isEmpty_iff] at hempty
      refine ⟨fun heq => hempty ?_, fun c hc => ?_⟩
      · rw [← String.toList_ofList (l := stripEndings _), heq]
        rfl
      · rw [String.toList_ofList] at hc
        obtain ⟨last, hlast⟩ : ∃ last, (Chars.splitOn '/' path).getLast? = some last :=
          Option.isSome_iff_exists.mp (by simp [Chars.splitOn_ne_nil])
        rw [hlast, Option.getD_some] at hc
        exact (Chars.mem_of_mem_splitOn (List.mem_of_getLast? hlast) c
          ((prefix_stripEndings last).subset hc)).1

theorem isIdChar_iff {c : Char} (h : c.toNat < 0x80) :
    ConnectionConfig.isIdChar c = true ↔ c.isAlphanum = true ∨ c ∈ ['-', '_'] := by
  simp [ConnectionConfig.isIdChar, Text.isAlphanumeric, h, or_assoc]

/-- The configuration is refused for the sake of the id alone. -/
theorem toConfig_eq {product : Dialect} (hid : u.id ≠ "")
    (hproduct : Dialect.ofConnectionString? u.connectionString = some product) :
    u.toConfig =
      if u.id.toList.all ConnectionConfig.isIdChar then
        .ok { id := u.id, product, connectionString := u.connectionString, database := u.database
              schema := u.schema, savePoints := u.savePoints, logQueries := u.logQueries }
      else .error (.invalidId u.id) := by
  rw [toConfig, ConnectionConfig.create, if_neg hid, hproduct]
  cases u.id.toList.all ConnectionConfig.isIdChar <;> rfl

variable {υ : Type} [UrlLibrary υ]

theorem id_of_read (h : read υ text = .ok u) (hname : (cutName text.toList).1 = none) :
    u.id = u.database.getD "default" := by
  obtain ⟨url, -, -, rfl⟩ := exists_of_read h
  rw [ofUrl, hname]
  cases databaseName? (UrlLibrary.path (stripped url)) <;> rfl

variable [LawfulUrlLibrary υ]

theorem product_of_read (h : read υ text = .ok u) :
    ∃ product, Dialect.ofConnectionString? u.connectionString = some product := by
  obtain ⟨url, hurl, hproduct, rfl⟩ := exists_of_read h
  have hparsed := UrlLibrary.parsed_of_product hurl hproduct
  rw [UrlLibrary.NamesProduct, ← product_stripped hparsed] at hproduct
  exact Option.isSome_iff_exists.mp hproduct

/-- The path has no other characters than those of ASCII, as any other is encoded. -/
theorem ascii_of_read (h : read υ text = .ok u) :
    ∀ name ∈ u.database, name ≠ "" ∧ ∀ c ∈ name.toList, c.toNat < 0x80 := by
  obtain ⟨url, hurl, hproduct, rfl⟩ := exists_of_read h
  have hparsed : UrlLibrary.Parsed (stripped url) :=
    (UrlLibrary.parsed_of_product hurl hproduct).withPairs _
  intro name hname
  obtain ⟨hne, hmem⟩ := of_databaseName? hname
  exact ⟨hne, fun c hc =>
    LawfulUrlLibrary.ascii hparsed c (LawfulUrlLibrary.path_subset _ (hmem c hc))⟩

/-- The default is an id. -/
theorem isId_getD_iff {database : Option String}
    (h : ∀ name ∈ database, name ≠ "" ∧ ∀ c ∈ name.toList, c.toNat < 0x80) :
    database.getD "default" ≠ "" ∧
      ((database.getD "default").toList.all ConnectionConfig.isIdChar = true ↔
        ∀ name ∈ database, ∀ c ∈ name.toList, c.isAlphanum = true ∨ c ∈ ['-', '_']) := by
  cases database with
  | none => exact ⟨by decide, fun _ _ hnone => absurd hnone (Option.not_mem_none _), fun _ => rfl⟩
  | some name =>
    obtain ⟨hne, hascii⟩ := h name rfl
    refine ⟨hne, ?_⟩
    simp only [Option.getD_some, List.all_eq_true, Option.mem_def, Option.some.injEq, forall_eq']
    exact forall₂_congr fun c hc => isIdChar_iff (hascii c hc)

/-- Without a name in front of the URL, the id is that of the database, or one that is always an id.
It is an id only where the database, as the URL spells it, has no other characters than an id. -/
theorem toConfig_derived_iff (h : read υ text = .ok u) (hname : (cutName text.toList).1 = none) :
    u.id = u.database.getD "default" ∧
      ((∃ config, u.toConfig = .ok config) ↔
        ∀ name ∈ u.database, ∀ c ∈ name.toList, c.isAlphanum = true ∨ c ∈ ['-', '_']) ∧
      ∀ fault, u.toConfig = .error fault → fault = .invalidId u.id := by
  have hid := id_of_read h hname
  obtain ⟨product, hproduct⟩ := product_of_read h
  obtain ⟨hne, hall⟩ := isId_getD_iff (ascii_of_read h)
  rw [← hid] at hne hall
  have hconfig := toConfig_eq hne hproduct
  refine ⟨hid, ?_, fun fault hfault => ?_⟩
  · rw [← hall, hconfig]
    split
    next hyes => exact ⟨fun _ => hyes, fun _ => ⟨_, rfl⟩⟩
    next hno => exact ⟨nofun, fun hyes => absurd hyes hno⟩
  · rw [hconfig] at hfault
    split at hfault
    next => cases hfault
    next => exact (Except.error.inj hfault).symm

theorem toConfig_derived_iff_file :
    ∃ u, read Url "sqlite:data/app.db" = .ok u ∧ u.id = "app" ∧
      ∃ config, u.toConfig = .ok config := by
  obtain ⟨u, hread, hdatabase⟩ :
      ∃ u, read Url "sqlite:data/app.db" = .ok u ∧ u.database = some "app" := ⟨_, rfl, rfl⟩
  obtain ⟨hid, husable, -⟩ := toConfig_derived_iff hread rfl
  rw [hdatabase] at hid husable
  exact ⟨u, hread, hid, husable.mpr (by decide)⟩

/-- A database whose name is an id gives no id where the URL spells it in encoded bytes. -/
theorem toConfig_encoded_name :
    (∀ c ∈ "café".toList, ConnectionConfig.isIdChar c = true) ∧
      ∃ u, read Url "mysql://host/caf%C3%A9" = .ok u ∧
        (cutName "mysql://host/caf%C3%A9".toList).1 = none ∧
        u.toConfig = .error (.invalidId "caf%C3%A9") := by
  exact ⟨by decide +kernel, _, rfl, rfl, rfl⟩

end PortableSql.DatabaseUrl
