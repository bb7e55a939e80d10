import MessageRefs.Server
import MessageRefs.Proofs.Workspace.Visible

/-!
**What is found in a workspace does not depend on how it is walked.**

The source files that a walk meets are put in the order of their names, and no two of them have the
same names, so every walk gives the same files in the same order. What is reported of each is what
an editor would be told of its text.

* `HasExtension`, `extension?_eq_some_iff`: the extension of a name;
* `IsCollection`: the wanted files below a directory, in the order of their names;
* `isCollection_sourceFilesAmong`: every walk of a directory gives this collection;
* `IsReport`: the files with references among those collected;
* `isReport_reportOf`: this is what is reported of them;
* `scan_isCanonical`: collection and report of a directory, whatever the walk.
-/

namespace MessageRefs

namespace Workspace

/-! ### Extensions -/

/-- A name has an extension: what stands behind its last dot, unless that dot comes first. -/
def HasExtension (name extension : String) : Prop :=
  ∃ stem, stem ≠ [] ∧ name.toList = stem ++ '.' :: extension.toList ∧ '.' ∉ extension.toList

/-- The run before the last dot, read from the back. -/
theorem takeWhile_noDot {extension : List Char} (dotless : '.' ∉ extension) (stem : List Char) :
    (stem ++ '.' :: extension).reverse.takeWhile (· != '.') = extension.reverse := by
  have noDot : ∀ c ∈ extension.reverse, (c != '.') = true := by
    intro c member
    rw [bne_iff_ne]
    rintro rfl
    exact dotless (List.mem_reverse.mp member)
  rw [List.reverse_append, List.reverse_cons, List.append_assoc,
    List.takeWhile_append_of_pos noDot, List.singleton_append,
    List.takeWhile_cons_of_neg (by decide), List.append_nil]

/-- **The extension that is read off a name is the one that it has.** -/
theorem extension?_eq_some_iff {name extension : String} :
    extension? name = some extension ↔ HasExtension name extension := by
  constructor
  · intro read
    simp only [extension?] at read
    split at read
    next => cases read
    next filled =>
      obtain rfl := Option.some.inj read
      rw [Bool.not_eq_true, List.isEmpty_eq_false_iff] at filled
      have whole := List.takeWhile_append_dropWhile (p := (· != '.')) (l := name.toList.reverse)
      have dotless : '.' ∉ name.toList.reverse.takeWhile (· != '.') := by
        intro member
        exact absurd (List.all_eq_true.mp List.all_takeWhile '.' member) (by decide)
      have stopped := List.head?_dropWhile_not (· != '.') name.toList.reverse
      generalize name.toList.reverse.takeWhile (· != '.') = behind at *
      generalize name.toList.reverse.dropWhile (· != '.') = rest at *
      rw [← whole, List.drop_append] at filled
      obtain ⟨dot, stem, rfl⟩ : ∃ dot stem, rest = dot :: stem := by
        refine List.exists_cons_of_ne_nil ?_
        rintro rfl
        simp at filled
      obtain rfl : dot = '.' := by simpa using stopped
      refine ⟨stem.reverse, by simpa using filled, ?_, ?_⟩
      · rw [String.toList_ofList, ← List.reverse_reverse name.toList, ← whole]
        simp
      · rwa [String.toList_ofList, List.mem_reverse]
  · rintro ⟨stem, filled, split, dotless⟩
    have run := takeWhile_noDot dotless stem
    have behind : (stem ++ '.' :: extension.toList).reverse.drop
        (extension.toList.reverse.length + 1) = stem.reverse := by
      rw [List.reverse_append, List.reverse_cons, List.append_assoc, List.drop_append]
      simp
    simp only [extension?, split, run, behind]
    rw [if_neg (by simpa using filled), List.reverse_reverse, String.ofList_toList]

/-- A file is wanted when it has one of the given extensions. -/
def IsWanted (extensions : List String) (file : SourceFile) : Prop :=
  ∃ name extension, file.names.getLast? = some name ∧ HasExtension name extension ∧
    extension ∈ extensions

theorem hasExtension_iff {file : SourceFile} {extensions : List String} :
    file.hasExtension extensions = true ↔ IsWanted extensions file := by
  unfold SourceFile.hasExtension IsWanted
  simp only [← extension?_eq_some_iff]
  cases named : file.names.getLast? with
  | none => simp
  | some name =>
    cases read : extension? name with
    | none => simp [read]
    | some extension => simp [read]

/-! ### Collections -/

section Collection

variable {files : FileSystem} {root : String} {walked found : List SourceFile}
  {entries : List (String × Tree)} {extensions others : List String} {file : SourceFile}

theorem mem_sourceFilesAmong :
    file ∈ sourceFilesAmong walked extensions ↔ file ∈ walked ∧ IsWanted extensions file := by
  rw [sourceFilesAmong, List.mem_mergeSort, List.mem_filter, hasExtension_iff]

/-- **Files of different names are put in strict order.** -/
theorem pairwise_sourceFilesAmong (distinct : (walked.map SourceFile.names).Nodup) :
    (sourceFilesAmong walked extensions).Pairwise
      fun first second => first.names < second.names := by
  have ordered := @List.pairwise_mergeSort SourceFile
    (fun first second => !decide (second.names < first.names))
    (by
      intro first second third
      simp only [Bool.not_eq_true', decide_eq_false_iff_not, List.not_lt]
      exact List.le_trans)
    (by
      intro first second
      simp only [Bool.or_eq_true, Bool.not_eq_true', decide_eq_false_iff_not, List.not_lt]
      exact List.le_total _ _)
    (walked.filter (·.hasExtension extensions))
  have different : (sourceFilesAmong walked extensions).Pairwise
      fun first second => first.names ≠ second.names := by
    rw [sourceFilesAmong, ← List.pairwise_map (f := SourceFile.names)]
    have inWalk := (List.filter_sublist (p := (·.hasExtension extensions)) (l := walked)).map
      SourceFile.names
    exact ((List.mergeSort_perm _ _).map _).nodup_iff.mpr (distinct.sublist inWalk)
  refine (ordered.and different).imp fun both => ?_
  obtain ⟨notAbove, different⟩ := both
  rw [Bool.not_eq_true', decide_eq_false_iff_not] at notAbove
  by_contra notBelow
  exact different (List.le_antisymm (List.not_lt.mp notAbove) (List.not_lt.mp notBelow))

/-- Files in strict order of their names are determined by which they are. -/
theorem eq_of_pairwise_names {first second : List SourceFile}
    (ordered : first.Pairwise fun file other => file.names < other.names)
    (ordered' : second.Pairwise fun file other => file.names < other.names)
    (same : ∀ file, file ∈ first ↔ file ∈ second) : first = second := by
  have irreflexive (file : SourceFile) : ¬file.names < file.names := List.lt_irrefl _
  have nodup {row : List SourceFile}
      (ordered : row.Pairwise fun file other => file.names < other.names) : row.Nodup := by
    refine ordered.imp ?_
    rintro file _ before rfl
    exact irreflexive file before
  refine List.Perm.eq_of_pairwise ?_ ordered ordered'
    ((List.perm_ext_iff_of_nodup (nodup ordered) (nodup ordered')).mpr same)
  intro file other _ _ before after
  exact absurd after (List.lt_asymm before)

/-- The wanted ones among the visible files below a directory, in strict order of their names. -/
structure IsCollection (files : FileSystem) (root : String) (extensions : List String)
    (collected : List SourceFile) : Prop where
  ordered : collected.Pairwise fun first second => first.names < second.names
  exactly : ∀ file, file ∈ collected ↔ IsVisibleBelow files root file ∧ IsWanted extensions file

/-- A directory has one collection for all lists of the same extensions. -/
theorem IsCollection.unique {collected collected' : List SourceFile}
    (isCollection : IsCollection files root extensions collected)
    (isCollection' : IsCollection files root others collected')
    (same : ∀ extension, extension ∈ others ↔ extension ∈ extensions) : collected = collected' := by
  refine eq_of_pairwise_names isCollection.ordered isCollection'.ordered fun file => ?_
  rw [isCollection.exactly, isCollection'.exactly]
  simp only [IsWanted, same]

/-- **Every walk of a directory gives its collection**, and so does the walk that is made. -/
theorem isCollection_sourceFilesAmong (directory : files.find? root = some (.directory entries))
    (proper : (Tree.directory entries).IsProper) (isWalk : IsWalk files root walked)
    (extensions : List String) :
    IsCollection files root extensions (sourceFilesAmong walked extensions) ∧
      collect files root extensions = .ok (sourceFilesAmong walked extensions) := by
  obtain ⟨found, met, isWalk', distinct⟩ := exists_isWalk directory proper
  have collection {walked : List SourceFile} (isWalk : IsWalk files root walked) :
      IsCollection files root extensions (sourceFilesAmong walked extensions) := by
    refine ⟨pairwise_sourceFilesAmong ?_, fun file => ?_⟩
    · exact ((isWalk.perm isWalk').map _).nodup_iff.mpr distinct
    · rw [mem_sourceFilesAmong, isWalk.meets]
  refine ⟨collection isWalk, ?_⟩
  rw [collect, met, (collection isWalk).unique (collection isWalk') fun _ => Iff.rfl]

end Collection

/-! ### Reports -/

section Report

variable {server : Server} {collected : List SourceFile} {file : SourceFile}

/-- What an editor is told of the text of a file; nothing if the file has none. -/
def itemsIn (server : Server) (file : SourceFile) : List ReferenceItem :=
  match file.content with
  | .ok content =>
    match String.fromUTF8? content with
    | some text => server.itemsOf (.string text)
    | none => []
  | .error _ => []

theorem references_of_ok {content : ByteArray} (readable : file.content = .ok content) :
    file.references server.matcher = .ok (itemsIn server file) := by
  simp only [SourceFile.references, itemsIn, readable, Matcher.locateBytes]
  cases String.fromUTF8? content <;> rfl

theorem references_of_error {reason : String} (unreadable : file.content = .error reason) :
    file.references server.matcher = .error (.unreadable file.path reason) := by
  simp only [SourceFile.references, unreadable]

/-- **The files with references are reported in the order in which they were collected.** -/
theorem files_reportOf : (reportOf server.matcher collected).files
    = (collected.filter fun file => !(itemsIn server file).isEmpty).map
        fun file => ⟨file.path, itemsIn server file⟩ := by
  rw [← List.filterMap_eq_map, List.filterMap_filter, reportOf]
  refine List.filterMap_congr fun file _ => ?_
  cases read : file.content with
  | error reason =>
    have none : itemsIn server file = [] := by simp only [itemsIn, read]
    rw [references_of_error read, none]
    rfl
  | ok content =>
    rw [references_of_ok read]
    cases items : itemsIn server file <;> simp [items]

/-- **No error is reported exactly when every file can be read.** -/
theorem errors_reportOf_eq_nil_iff : (reportOf server.matcher collected).errors = [] ↔
    ∀ file ∈ collected, ∃ content, file.content = .ok content := by
  rw [reportOf, List.filterMap_eq_nil_iff]
  refine forall₂_congr fun file _ => ?_
  cases read : file.content with
  | error reason => simp [@references_of_error server file reason read]
  | ok content => simp [@references_of_ok server file content read]

theorem itemsIn_of_text {text : String} (content : file.content = .ok text.toUTF8) :
    itemsIn server file = server.itemsOf (.string text) := by
  have read : String.fromUTF8? text.toUTF8 = some text := dif_pos text.isValidUTF8
  simp only [itemsIn, content, read]

/-- A file has references exactly when it is a text with a marker in which some are located. -/
theorem itemsIn_ne_nil_iff : itemsIn server file ≠ [] ↔ ∃ text : String,
    file.content = .ok text.toUTF8 ∧
    (∃ marker, Marker.offset? server.matcher.config text.toList = some marker) ∧
    server.matcher.locate text ≠ [] := by
  have located (text : String) :
      server.itemsOf (.string text) ≠ [] ↔ server.matcher.locate text ≠ [] := by
    rw [Server.itemsOf, Matcher.items, ne_eq, List.map_eq_nil_iff]
  constructor
  · intro filled
    cases content : file.content with
    | error reason => exact absurd (by simp only [itemsIn, content]) filled
    | ok bytes =>
      cases read : String.fromUTF8? bytes with
      | none => exact absurd (by simp only [itemsIn, content, read]) filled
      | some text =>
        have written : bytes = text.toUTF8 := by
          rw [String.fromUTF8?] at read
          split at read
          next =>
            cases read
            rfl
          next => cases read
        subst written
        rw [itemsIn_of_text content, located] at filled
        refine ⟨text, rfl, ?_, filled⟩
        -- Without a marker nothing would be located.
        by_contra unmarked
        refine filled ?_
        rw [Matcher.locate, Matcher.locateChars]
        split
        next => rfl
        next marker marked => exact absurd ⟨marker, marked⟩ unmarked
  · rintro ⟨text, content, -, filled⟩
    rwa [itemsIn_of_text content, located]

/-- What is reported of collected files: those with references, each with what an editor is told of
its text, and no error if all of them can be read. -/
structure IsReport (server : Server) (collected : List SourceFile) (report : Report) : Prop where
  files : report.files = (collected.filter fun file => !(itemsIn server file).isEmpty).map
    fun file => ⟨file.path, itemsIn server file⟩
  present : ∀ entry, entry ∈ report.files ↔ ∃ file ∈ collected, ∃ text : String,
    file.content = .ok text.toUTF8 ∧
    (∃ marker, Marker.offset? server.matcher.config text.toList = some marker) ∧
    server.matcher.locate text ≠ [] ∧ entry = ⟨file.path, server.itemsOf (.string text)⟩
  errors : report.errors = [] ↔ ∀ file ∈ collected, ∃ content, file.content = .ok content

theorem isReport_reportOf (server : Server) (collected : List SourceFile) :
    IsReport server collected (reportOf server.matcher collected) := by
  refine ⟨files_reportOf, fun entry => ?_, errors_reportOf_eq_nil_iff⟩
  rw [files_reportOf, List.mem_map]
  constructor
  · rintro ⟨file, member, rfl⟩
    obtain ⟨member, filled⟩ := List.mem_filter.mp member
    obtain ⟨text, content, marked, located⟩ := itemsIn_ne_nil_iff.mp (by simpa using filled)
    exact ⟨file, member, text, content, marked, located, by rw [itemsIn_of_text content]⟩
  · rintro ⟨file, member, text, content, marked, located, rfl⟩
    have filled : itemsIn server file ≠ [] :=
      itemsIn_ne_nil_iff.mpr ⟨text, content, marked, located⟩
    exact ⟨file, List.mem_filter.mpr ⟨member, by simpa using filled⟩,
      by rw [itemsIn_of_text content]⟩

end Report

/-! ### The scan of a directory -/

section Scan

variable {files : FileSystem} {root : String} {walked : List SourceFile}
  {entries : List (String × Tree)}

/-- **The scan of a directory does not depend on how it is walked.** Whatever the order in which a
walk meets the visible files, each of them once, those with a wanted extension are collected in
strict order of their names, and no others. What is reported are the files of this collection in
which references are found, in the same order, each with what an editor is told of its text. Order
and repetitions of the extensions do not matter. -/
theorem scan_isCanonical (directory : files.find? root = some (.directory entries))
    (proper : (Tree.directory entries).IsProper) (isWalk : IsWalk files root walked)
    (extensions : List String) (server : Server) :
    ∃ collected report, IsCollection files root extensions collected ∧
      IsReport server collected report ∧
      ∀ others : List String, (∀ extension, extension ∈ others ↔ extension ∈ extensions) →
        sourceFilesAmong walked others = collected ∧
        collect files root others = .ok collected ∧
        scan files root others server.matcher = .ok report := by
  obtain ⟨isCollection, -⟩ := isCollection_sourceFilesAmong directory proper isWalk extensions
  refine ⟨_, _, isCollection, isReport_reportOf server _, fun others same => ?_⟩
  obtain ⟨isCollection', collects⟩ := isCollection_sourceFilesAmong directory proper isWalk others
  have equal := (isCollection.unique isCollection' same).symm
  rw [scan, collects, equal]
  exact ⟨rfl, rfl, rfl⟩

/-- A file beside a directory whose names begin alike, and a file with another extension. -/
def besideDirectory : List (String × Tree) :=
  [("a.dart", .file (.ok "@inlang/paraglide-js context.t.b".toUTF8)), ("a.txt", .file (.ok ⟨#[]⟩)),
    ("a", .directory [("x.dart", .file (.ok ⟨#[0xff]⟩))])]

theorem besideDirectory_isProper : (Tree.directory besideDirectory).IsProper := by
  refine .directory (by decide) fun entry member => ?_
  simp only [besideDirectory, List.mem_cons, List.not_mem_nil, or_false] at member
  rcases member with rfl | rfl | rfl
  · exact .file
  · exact .file
  · refine .directory (by decide) fun entry member => ?_
    rw [List.mem_singleton.mp member]
    exact .file

/-- A walk that meets the directory last. -/
theorem scan_isCanonical_besideDirectory :
    ∃ walked, IsWalk (.ofWorkingDirectory (.directory besideDirectory)) "." walked ∧
      walked.map SourceFile.names = [["a", "x.dart"], ["a.txt"], ["a.dart"]] ∧
      ∃ collected report,
        IsCollection (.ofWorkingDirectory (.directory besideDirectory)) "." ["dart"] collected ∧
        IsReport {} collected report ∧
        ∀ others : List String, (∀ extension, extension ∈ others ↔ extension ∈ ["dart"]) →
          sourceFilesAmong walked others = collected ∧
          collect (.ofWorkingDirectory (.directory besideDirectory)) "." others = .ok collected ∧
          scan (.ofWorkingDirectory (.directory besideDirectory)) "." others .standard
            = .ok report := by
  have directory : (FileSystem.ofWorkingDirectory (.directory besideDirectory)).find? "."
      = some (.directory besideDirectory) := rfl
  obtain ⟨found, met, isWalk, -⟩ := exists_isWalk directory besideDirectory_isProper
  have names : found.map SourceFile.names = [["a.dart"], ["a.txt"], ["a", "x.dart"]] := by
    have listed : (visibleFiles? (.ofWorkingDirectory (.directory besideDirectory)) ".").map
        (List.map SourceFile.names) = some [["a.dart"], ["a.txt"], ["a", "x.dart"]] := by
      decide +kernel
    rw [met] at listed
    exact Option.some.inj listed
  have backward : IsWalk (.ofWorkingDirectory (.directory besideDirectory)) "." found.reverse :=
    isWalk.of_perm (List.reverse_perm found)
  exact ⟨found.reverse, backward, by rw [List.map_reverse, names]; rfl,
    scan_isCanonical directory besideDirectory_isProper backward ["dart"] {}⟩

end Scan

end Workspace

end MessageRefs
