import CloudAudit.CommandLine.Run
import CloudAudit.Proofs.Catalog.Sources
import CloudAudit.Proofs.Literal.Trimmed
import Mathlib.Data.Bool.AllAny

/-! The target that the command prints is the one that the library finds for a catalog as it is
given, white space at its ends included. -/
namespace CloudAudit

theorem Catalog.parse_trim {text : String} (ascii : ∀ c ∈ text.toList, c.toNat < 128) :
    (parse (Text.trim text)).toOption = (parse text).toOption := by
  rw [toOption_parse, toOption_parse, Text.trim, String.toList_ofList,
    Literal.read?_trimChars ascii]

namespace CommandLine

def inOneArgument (option : String × String) : String := "--" ++ option.1 ++ "=" ++ option.2

structure Takes (flags : List Flag) (option : String × String) (flag : Flag) : Prop where
  known : flags.find? (·.long = option.1) = some flag
  valued : flag.kind ≠ .switch
  named : flag.kind = .file → option.2 ≠ ""
  noHelp : option.1 ≠ "help"
  noMark : '=' ∉ option.1.toList

theorem shapeOf_inOneArgument {flags : List Flag} {option : String × String} {flag : Flag}
    (takes : Takes flags option flag) :
    shapeOf flags (inOneArgument option) = .flag flag (some option.2) := by
  have chars : (inOneArgument option).toList =
      '-' :: '-' :: (option.1.toList ++ '=' :: option.2.toList) := by simp [inOneArgument]
  have shape : shapeOf flags (inOneArgument option) =
      longShape flags (option.1.toList ++ '=' :: option.2.toList) := by
    obtain ⟨c, rest, split⟩ := List.exists_cons_of_ne_nil
      (List.append_ne_nil_of_right_ne_nil option.1.toList (List.cons_ne_nil '=' option.2.toList))
    rw [shapeOf, chars, split]
    rfl
  have inName : ∀ c ∈ option.1.toList, decide (c ≠ '=') = true := fun c inside =>
    decide_eq_true fun same => takes.noMark (same ▸ inside)
  have name : (option.1.toList ++ '=' :: option.2.toList).takeWhile (· ≠ '=') =
      option.1.toList := by
    rw [List.takeWhile_append_of_pos inName, List.takeWhile_cons_of_neg (by decide),
      List.append_nil]
  have value : (option.1.toList ++ '=' :: option.2.toList).dropWhile (· ≠ '=') =
      '=' :: option.2.toList := by
    rw [List.dropWhile_append_of_pos inName, List.dropWhile_cons_of_neg (by decide)]
  rw [shape, longShape, name, value, String.ofList_toList, if_neg takes.noHelp, takes.known,
    attachedValue?, String.ofList_toList]

theorem add_eq_ok {settings : Settings} {flags : List Flag} {option : String × String}
    {flag : Flag} (takes : Takes flags option flag) (fresh : option.1 ∉ settings.map Prod.fst) :
    settings.add flag option.2 = .ok (settings ++ [option]) := by
  have sameName : flag.long = option.1 := by simpa using List.find?_some takes.known
  have noneYet : settings.get? flag.long = none := by
    rw [sameName, Settings.get?, List.lookup_eq_none_iff]
    intro setting inside
    refine bne_iff_ne.2 fun same => fresh ?_
    rw [same]
    exact List.mem_map_of_mem inside
  have namesFile : (flag.kind = .file && option.2.isEmpty) = false := by
    refine Bool.eq_false_iff.2 fun both => ?_
    simp only [Bool.and_eq_true, decide_eq_true_eq, String.isEmpty_iff] at both
    exact takes.named both.1 both.2
  rw [Settings.add, noneYet, namesFile, sameName]
  rfl

/-- In the order of the arguments the options are added to the settings. -/
theorem readFlags_inOneArgument {flags : List Flag} {options settings : Settings}
    (each : ∀ option ∈ options, ∃ flag, Takes flags option flag)
    (distinct : ((settings ++ options).map Prod.fst).Nodup) (rest : List String) :
    readFlags flags settings (options.map inOneArgument ++ rest) =
      readFlags flags (settings ++ options) rest := by
  induction options generalizing settings with
  | nil => rw [List.append_nil, List.map_nil, List.nil_append]
  | cons option more ih =>
    obtain ⟨⟨flag, takes⟩, others⟩ := List.forall_mem_cons.1 each
    have fresh : option.1 ∉ settings.map Prod.fst := by
      rw [List.map_append, List.map_cons] at distinct
      exact fun inside => (List.nodup_append.1 distinct).2.2 _ inside _ (.head _) rfl
    rw [List.append_cons] at distinct ⊢
    rw [← ih others distinct, List.map_cons, List.cons_append, readFlags,
      shapeOf_inOneArgument takes]
    cases kind : flag.kind with
    | switch => exact absurd kind takes.valued
    | text | file =>
      simp only [kind, add_eq_ok takes fresh]
      rfl

theorem readOnlyFlags_inOneArgument {flags : List Flag} {options : Settings}
    (each : ∀ option ∈ options, ∃ flag, Takes flags option flag)
    (distinct : (options.map Prod.fst).Nodup) :
    readOnlyFlags flags (options.map inOneArgument) = .ok options := by
  have all := readFlags_inOneArgument each (by rwa [List.nil_append]) []
  rw [List.append_nil, List.nil_append] at all
  rw [readOnlyFlags, all]
  rfl

theorem get?_of_perm {settings other : Settings} (same : settings.Perm other)
    (distinct : (settings.map Prod.fst).Nodup) (long : String) :
    settings.get? long = other.get? long := by
  induction same with
  | nil => rfl
  | cons option _ ih =>
    have rest := ih (List.nodup_cons.1 distinct).2
    rw [Settings.get?, Settings.get?, Table.lookup_entry, Table.lookup_entry]
    exact congrArg _ rest
  | swap option next rest =>
    have apart : next.1 ≠ option.1 := fun same => by simp [same] at distinct
    rw [Settings.get?, Settings.get?, Table.lookup_entry, Table.lookup_entry, Table.lookup_entry,
      Table.lookup_entry]
    split_ifs with one other
    · exact absurd (one.symm.trans other) apart
    all_goals rfl
  | trans first _ ihFirst ihSecond =>
    exact (ihFirst distinct).trans (ihSecond ((first.map Prod.fst).nodup_iff.1 distinct))

inductive GivesCatalog (entry : String → FileEntry) (catalog : String) : String × String → Prop
  | text : GivesCatalog entry catalog ("catalog", catalog)
  | file {path : String} (named : path ≠ "") (found : entry path = .file catalog.toUTF8) :
    GivesCatalog entry catalog ("catalog-file", path)

section

variable {entry : String → FileEntry} {catalog path hostUrl : String} {given : String × String}

theorem takes_text {flags : List Flag} {name value : String} {flag : Flag}
    (known : flags.find? (·.long = name) = some flag) (isText : flag.kind = .text)
    (noHelp : name ≠ "help") (noMark : '=' ∉ name.toList) : Takes flags (name, value) flag :=
  ⟨known, by simp [isText], by simp [isText], noHelp, noMark⟩

theorem takes_file {flags : List Flag} {name value : String} {flag : Flag}
    (known : flags.find? (·.long = name) = some flag) (isFile : flag.kind = .file)
    (named : value ≠ "") (noHelp : name ≠ "help") (noMark : '=' ∉ name.toList) :
    Takes flags (name, value) flag :=
  ⟨known, by simp [isFile], fun _ => named, noHelp, noMark⟩

theorem GivesCatalog.takes (gives : GivesCatalog entry catalog given) :
    ∃ flag, Takes targetFlags given flag := by
  cases gives with
  | text => exact ⟨_, takes_text rfl rfl (by decide) (by decide)⟩
  | file named => exact ⟨_, takes_file rfl rfl named (by decide) (by decide)⟩

theorem GivesCatalog.names_nodup (gives : GivesCatalog entry catalog given) :
    ["path", "host-url", given.1].Nodup := by
  cases gives with
  | text => exact (by decide : ["path", "host-url", "catalog"].Nodup)
  | file => exact (by decide : ["path", "host-url", "catalog-file"].Nodup)

theorem GivesCatalog.source (gives : GivesCatalog entry catalog given) (path hostUrl : String) :
    ∃ source, catalogSource [("path", path), ("host-url", hostUrl), given] = .ok (some source) ∧
      source.read entry = .ok catalog := by
  cases gives with
  | text => exact ⟨.text catalog, rfl, rfl⟩
  | @file file _ found =>
    have content : (CatalogSource.file file).read entry = .ok catalog := by
      rw [CatalogSource.read, found, FileEntry.text_toUTF8]
    exact ⟨.file file, rfl, content⟩

theorem targetOf_options (gives : GivesCatalog entry catalog given) {options : Settings}
    (order : options.Perm [("path", path), ("host-url", hostUrl), given]) :
    ∃ source, targetOf (options.map inOneArgument) = .ok (.target path hostUrl (some source)) ∧
      source.read entry = .ok catalog := by
  obtain ⟨source, chosen, content⟩ := gives.source path hostUrl
  refine ⟨source, ?_, content⟩
  have each : ∀ option ∈ options, ∃ flag, Takes targetFlags option flag := by
    intro option inside
    have listed := order.mem_iff.1 inside
    simp only [List.mem_cons, List.not_mem_nil, or_false] at listed
    rcases listed with rfl | rfl | rfl
    · exact ⟨_, takes_text rfl rfl (by decide) (by decide)⟩
    · exact ⟨_, takes_text rfl rfl (by decide) (by decide)⟩
    · exact gives.takes
  have distinct : (options.map Prod.fst).Nodup := by
    rw [(order.map Prod.fst).nodup_iff]
    exact gives.names_nodup
  have same (long : String) := get?_of_perm order distinct long
  have chosenHere : catalogSource options = .ok (some source) := by
    rw [← chosen, catalogSource, same, same]
    rfl
  have atPath : required options "path" = .ok path := by
    rw [required, same]
    rfl
  have atHost : required options "host-url" = .ok hostUrl := by
    rw [required, same]
    rfl
  rw [targetOf, readOnlyFlags_inOneArgument each distinct]
  show (do
    let catalog ← catalogSource options
    return Command.target (← required options "path") (← required options "host-url") catalog) = _
  rw [chosenHere, atPath, atHost]
  rfl

theorem parse_target (gives : GivesCatalog entry catalog given) {options : Settings}
    (order : options.Perm [("path", path), ("host-url", hostUrl), given]) {config : String}
    (named : config ≠ "") :
    ∃ source, parse (inOneArgument ("config", config) :: "target" :: options.map inOneArgument) =
        .ok ⟨some config, false, .target path hostUrl (some source)⟩ ∧
      source.read entry = .ok catalog := by
  obtain ⟨source, target, content⟩ := targetOf_options gives order
  refine ⟨source, ?_, content⟩
  have configured : readFlags programFlags []
        ([("config", config)].map inOneArgument ++ "target" :: options.map inOneArgument) =
      readFlags programFlags [("config", config)] ("target" :: options.map inOneArgument) :=
    readFlags_inOneArgument
      (List.forall_mem_cons.2 ⟨⟨_, takes_file rfl rfl named (by decide) (by decide)⟩,
        List.forall_mem_nil _⟩) (by simp) _
  have command : readFlags programFlags [("config", config)]
        ("target" :: options.map inOneArgument) =
      .ok ([("config", config)], "target" :: options.map inOneArgument, false) := by
    rw [readFlags]
    rfl
  have read := configured.trans command
  rw [List.map_singleton, List.singleton_append] at read
  rw [parse, read]
  show (do return Invocation.mk (some config) false (← targetOf (options.map inOneArgument))) = _
  rw [target]
  rfl

end

theorem runTarget_eq {map : AuditMap} {path hostUrl : String} {catalog : Option String}
    {found : Logged Target}
    (finds : map.target
      { method := .get, path, hostUrl, serviceCatalog := catalog.map Text.trim } = found) :
    runTarget map path hostUrl catalog = ⟨found.value.toJson.pretty ++ "\n", found.log⟩ := by
  have logged : runTarget map path hostUrl catalog =
      ⟨found.value.toJson.pretty ++ "\n", found.log ++ []⟩ := by
    rw [runTarget, finds]
    rfl
  rw [logged, List.append_nil]

/-- White space at the ends of a catalog in ASCII decides nothing: with it and without it the text
is the same catalog or none, and so the target that the command prints is the one that the library
finds for the catalog as it is given. -/
theorem runArguments_target {entry : String → FileEntry} {config text path hostUrl catalog : String}
    {given : String × String} {options : Settings} {map : Logged AuditMap}
    (accepted : AuditMap.parse text = .ok map) (named : config ≠ "")
    (configured : entry config = .file text.toUTF8)
    (ascii : ∀ c ∈ catalog.toList, c.toNat < 128) (gives : GivesCatalog entry catalog given)
    (order : options.Perm [("path", path), ("host-url", hostUrl), given]) :
    let found := map.value.target { method := .get, path, hostUrl, serviceCatalog := some catalog }
    (Catalog.parse (Text.trim catalog)).toOption = (Catalog.parse catalog).toOption ∧
      runArguments entry (inOneArgument ("config", config) :: "target" ::
          options.map inOneArgument) =
        { exit := 0
          output := found.value.toJson.pretty ++ "\n"
          log := map.log ++ (AuditMap.loaded map.value).log ++ found.log } := by
  intro found
  have same := Catalog.parse_trim ascii
  refine ⟨same, ?_⟩
  obtain ⟨source, parsed, content⟩ := parse_target gives order named
  have trimmed : map.value.target
      { method := .get, path, hostUrl, serviceCatalog := some (Text.trim catalog) } = found :=
    Catalog.target_of_same same map.value { method := .get, path, hostUrl }
  have loads : AuditMap.load (some config) entry =
      .ok ⟨map.value, map.log ++ (AuditMap.loaded map.value).log⟩ := by
    rw [AuditMap.load_of_file configured, accepted]
    rfl
  have ran : runCommand entry map.value (.target path hostUrl (some source)) =
      .ok ⟨found.value.toJson.pretty ++ "\n", found.log⟩ := by
    simp only [runCommand, content]
    exact congrArg Except.ok (runTarget_eq trimmed)
  simp only [runArguments, parsed, run, loads, ran]

theorem runArguments_target_of_comment :
    let text := "[service_endpoints]\ncompute = service/compute\n"
    let catalog := "\n [\x7btype: 'compute', endpoints: [\x7bpublicURL: 'http://nova'\x7d]\x7d] //\t"
    let entry (path : String) : FileEntry :=
      if path = "audit.conf" then .file text.toUTF8
      else if path = "catalog" then .file catalog.toUTF8
      else .absent
    let target : Target := ⟨"service/compute", "unknown", "unknown",
      [⟨"admin", "unknown"⟩, ⟨"private", "unknown"⟩, ⟨"public", "http://nova"⟩]⟩
    (runArguments entry
        ["--config=audit.conf", "target", "--catalog-file=catalog", "--path=/v2",
          "--host-url=http://nova"]).exit = 0 ∧
      (runArguments entry
        ["--config=audit.conf", "target", "--catalog-file=catalog", "--path=/v2",
          "--host-url=http://nova"]).output = target.toJson.pretty ++ "\n" := by
  intro text catalog entry target
  let map := AuditMap.empty.addServiceEndpoint "compute" "service/compute"
  have accepted : AuditMap.parse text = .ok ⟨map, []⟩ := by decide +kernel
  have ascii : ∀ c ∈ catalog.toList, c.toNat < 128 :=
    List.all_iff_forall_prop.1 (by decide +kernel)
  have gives : GivesCatalog entry catalog ("catalog-file", "catalog") := .file (by decide) rfl
  have order : [("catalog-file", "catalog"), ("path", "/v2"), ("host-url", "http://nova")].Perm
      [("path", "/v2"), ("host-url", "http://nova"), ("catalog-file", "catalog")] := by decide
  have found : (map.target ⟨.get, "/v2", "http://nova", none, some catalog⟩).value = target := by
    decide +kernel
  have ran := (runArguments_target accepted (by decide : "audit.conf" ≠ "") rfl ascii gives order).2
  rw [found] at ran
  have arguments : inOneArgument ("config", "audit.conf") :: "target" ::
        [("catalog-file", "catalog"), ("path", "/v2"), ("host-url", "http://nova")].map
          inOneArgument =
      ["--config=audit.conf", "target", "--catalog-file=catalog", "--path=/v2",
        "--host-url=http://nova"] := by decide
  rw [arguments] at ran
  rw [ran]
  exact ⟨rfl, rfl⟩

end CommandLine

end CloudAudit
