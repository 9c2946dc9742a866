import Stencil.Proofs.Staging.Inside
import Stencil.Proofs.Text.Bytes
import Stencil.Proofs.Text.Strip

/-!
# Where destinations lead

A destination that is normalized leads to the place that its text names, whether the text is
absolute or relative to the workspace root (`normalizeAt_sound`). A relative one is refused exactly
if `..` leads out of the root on the way (`foldInside_eq_none_iff`), and an absolute one in the root
is read like what follows the root's path in it (`normalize_behindRoot`).

The root may have backslashes in its name, which are then read as slashes: what counts for a path is
the place it leads to (`nativePlace`), and repeated slashes, `.` and `..` in it do not matter. The
path of the root need not be a text. An absolute destination is compared with the text that is read
of it, so in such a workspace it can lead to another place (`strayRoot_misleads`).
-/
namespace Stencil
namespace Destination
variable {done segments result : List Segment}

/-! ## Folding -/

section Generic
variable {α : Type} [DecidableEq α] {slash dot : α}

theorem foldRooted_append (done segments more : List (List α)) :
    foldRooted dot done (segments ++ more) =
      foldRooted dot (foldRooted dot done segments) more := by
  fun_induction foldRooted dot done segments with
  | case1 done => rfl
  | case2 done s rest idle ih => rw [List.cons_append, foldRooted, if_pos idle, ih]
  | case3 done rest idle ih => rw [List.cons_append, foldRooted, if_neg idle, if_pos rfl, ih]
  | case4 done s rest idle up ih => rw [List.cons_append, foldRooted, if_neg idle, if_neg up, ih]

/-- What follows a slash in a path leads on from where the path in front of it leads. -/
theorem foldRooted_splitAt_append (done : List (List α)) (path more : List α) :
    foldRooted dot done (Text.splitAt slash (path ++ slash :: more)) =
      foldRooted dot (foldRooted dot done (Text.splitAt slash path)) (Text.splitAt slash more) := by
  rw [Text.splitAt_append, foldRooted_append]

end Generic

/-- The byte between the segments of a path. -/
abbrev slash : UInt8 := '/'.toUInt8

/-- The byte of which the segments `.` and `..` are made. -/
abbrev dot : UInt8 := '.'.toUInt8

theorem isIdle_encode (s : Segment) : isIdle dot (Text.encode s) = isIdle '.' s := by
  have hempty : Text.encode s = [] ↔ s = [] := Text.encode_injective.eq_iff (b := [])
  have hdot : Text.encode s = [dot] ↔ s = ['.'] := Text.encode_injective.eq_iff (b := ['.'])
  simp only [isIdle, hempty, hdot]

theorem encode_eq_up_iff (s : Segment) : Text.encode s = [dot, dot] ↔ s = ['.', '.'] :=
  Text.encode_injective.eq_iff (b := ['.', '.'])

/-- Where the bytes of a segment lead is read off the segment. -/
theorem foldRooted_encode_cons (done : List NativePath) (s : Segment) (rest : List NativePath) :
    foldRooted dot done (Text.encode s :: rest) =
      if isIdle '.' s then foldRooted dot done rest
      else if s = ['.', '.'] then foldRooted dot done.dropLast rest
      else foldRooted dot (done ++ [Text.encode s]) rest := by
  simp only [foldRooted, isIdle_encode, encode_eq_up_iff]

/-- The bytes of segments are followed where the segments are. -/
theorem foldRooted_encode (done segments : List Segment) :
    foldRooted dot (done.map Text.encode) (segments.map Text.encode) =
      (foldRooted '.' done segments).map Text.encode := by
  fun_induction foldRooted '.' done segments with
  | case1 done => rfl
  | case2 done s rest idle ih =>
    rw [List.map_cons, foldRooted_encode_cons, if_pos idle, ih]
  | case3 done rest idle ih =>
    rw [List.map_cons, foldRooted_encode_cons, if_neg idle, if_pos rfl, ← List.map_dropLast, ih]
  | case4 done s rest idle up ih =>
    rw [List.map_cons, foldRooted_encode_cons, if_neg idle, if_neg up, ← ih, List.map_append]
    rfl

/-- Segments that do not climb out of a directory lead to the same place below it from the root. -/
theorem foldRooted_of_foldInside (base : List NativePath)
    (h : foldInside done segments = some result) :
    foldRooted dot (base ++ done.map Text.encode) (segments.map Text.encode) =
      base ++ result.map Text.encode := by
  fun_induction foldInside done segments with
  | case1 done => cases h; rfl
  | case2 done s rest idle ih =>
    rw [List.map_cons, foldRooted_encode_cons, if_pos idle, ih h]
  | case3 => cases h
  | case4 done rest hne idle ih =>
    have hne : done.map Text.encode ≠ [] := by simpa using hne
    rw [List.map_cons, foldRooted_encode_cons, if_neg idle, if_pos rfl,
      List.dropLast_append_of_ne_nil hne, ← List.map_dropLast, ih h]
  | case5 done s rest idle up ih =>
    rw [List.map_cons, foldRooted_encode_cons, if_neg idle, if_neg up, ← ih h, List.map_append,
      List.append_assoc]
    rfl

/-- Names lead down. -/
theorem foldInside_of_isPlainSegment (done : List Segment)
    (h : ∀ s ∈ segments, Layout.isPlainSegment s) :
    foldInside done segments = some (done ++ segments) := by
  induction segments generalizing done with
  | nil => simp [foldInside]
  | cons s rest ih =>
    obtain ⟨hs, hrest⟩ := List.forall_mem_cons.1 h
    obtain ⟨empty, idle, up⟩ := ne_of_isPlainSegment hs
    have idle : ¬ isIdle '.' s := by simp [isIdle, empty, idle]
    rw [foldInside, if_neg idle, if_neg up, ih _ hrest, List.append_assoc]
    rfl

theorem exists_prefix_cons {P : List Segment → Prop} (hnil : ¬ P []) (s : Segment)
    (rest : List Segment) :
    (∃ front, front <+: s :: rest ∧ P front) ↔ ∃ front, front <+: rest ∧ P (s :: front) := by
  simp only [List.prefix_cons_iff]
  constructor
  · rintro ⟨_, rfl | ⟨front, rfl, hfront⟩, h⟩
    · exact absurd h hnil
    · exact ⟨front, hfront, h⟩
  · rintro ⟨front, hfront, h⟩
    exact ⟨s :: front, .inr ⟨front, rfl, hfront⟩, h⟩

/-- `..` leads out of a directory exactly if, up to some point, it stands more often than there are
names and levels below the directory. -/
theorem foldInside_eq_none_iff (done segments : List Segment) :
    foldInside done segments = none ↔ ∃ front, front <+: segments ∧
      done.length + front.countP Layout.isPlainSegment < front.count ['.', '.'] := by
  fun_induction foldInside done segments with
  | case1 done => simp
  | case2 done s rest idle ih =>
    rw [ih, exists_prefix_cons (by simp)]
    have hs : s = [] ∨ s = ['.'] := by simpa [isIdle] using idle
    rcases hs with rfl | rfl <;> simp [Layout.isPlainSegment]
  | case3 done rest hnil idle =>
    have hnil : done = [] := by simpa using hnil
    subst hnil
    simp only [true_iff]
    exact ⟨[['.', '.']], by simp, by decide⟩
  | case4 done rest hne idle ih =>
    rw [ih, exists_prefix_cons (by simp)]
    have hne : 0 < done.length := by simpa [List.length_pos_iff] using hne
    have up (front : List Segment) :
        (['.', '.'] :: front).countP Layout.isPlainSegment = front.countP Layout.isPlainSegment :=
      List.countP_cons_of_neg (by decide)
    simp only [up, List.count_cons_self, List.length_dropLast]
    refine exists_congr fun front => and_congr_right fun _ => ?_
    omega
  | case5 done s rest idle up ih =>
    rw [ih, exists_prefix_cons (by simp)]
    have hs : Layout.isPlainSegment s := by simp_all [Layout.isPlainSegment, isIdle]
    simp only [List.countP_cons_of_pos hs, List.count_cons_of_ne up, List.length_append,
      List.length_singleton]
    refine exists_congr fun front => and_congr_right fun _ => ?_
    omega

/-! ## Places -/

/-- The place that an absolute path leads to, `.` and `..` folded by their text alone. -/
def placeOf (path : List Char) : List Segment := foldRooted '.' [] (Text.splitAt '/' path)

/-- The place that an absolute path of the operating system leads to. -/
def nativePlace (path : NativePath) : List NativePath := foldRooted dot [] (Text.splitAt slash path)

theorem nativePlace_encode (path : List Char) :
    nativePlace (Text.encode path) = (placeOf path).map Text.encode := by
  rw [nativePlace, Text.splitAt_encode (by decide)]
  exact foldRooted_encode [] _

/-- Slashes in front of a path lead nowhere. -/
theorem foldRooted_dropWhile (done : List Segment) (path : List Char) :
    foldRooted '.' done (Text.splitAt '/' (path.dropWhile (· = '/'))) =
      foldRooted '.' done (Text.splitAt '/' path) := by
  induction path with
  | nil => rfl
  | cons c rest ih =>
    by_cases hc : c = '/'
    · subst hc
      rw [List.dropWhile_cons_of_pos (by simp), ih]
      rfl
    · rw [List.dropWhile_cons_of_neg (by simpa using hc)]

/-- Slashes at the end of a path lead nowhere. -/
theorem placeOf_dropEndWhile (path : List Char) :
    placeOf (Text.dropEndWhile (· = '/') path) = placeOf path := by
  obtain ⟨tail, hpath, slashes⟩ := Text.exists_end (· = '/') path
  cases tail with
  | nil => rw [← List.append_nil (Text.dropEndWhile _ path), ← hpath]
  | cons c rest =>
    obtain ⟨hc, hrest⟩ := List.forall_mem_cons.1 slashes
    obtain rfl : c = '/' := by simpa using hc
    have nowhere : rest.dropWhile (· = '/') = [] := List.dropWhile_eq_nil_iff.2 hrest
    conv_rhs => rw [hpath]
    rw [placeOf, placeOf, foldRooted_splitAt_append, ← foldRooted_dropWhile _ rest, nowhere]
    rfl

/-- What is left of an absolute path behind the root leads from the root where the path leads. -/
theorem placeOf_of_relativeTo {root path rest : List Char} (h : relativeTo root path = some rest) :
    placeOf path = foldRooted '.' (placeOf (unify root)) (Text.splitAt '/' rest) := by
  rw [← placeOf_dropEndWhile (unify root)]
  unfold relativeTo at h
  split at h
  · rename_i hstart
    cases h
    rw [Text.afterStart_eq_some_iff.1 hstart, List.append_nil]
    rfl
  · rename_i more hstart
    cases h
    rw [Text.afterStart_eq_some_iff.1 hstart, placeOf, foldRooted_splitAt_append,
      foldRooted_dropWhile]
    rfl
  · cases h

/-! ## Reading a destination -/

/-- A destination as it is read: without blanks around it and with slashes only. -/
def written (raw : String) : List Char := unify (Text.stripWhile Unicode.isBlank raw.toList)

/-- What a destination names relative to a root with this text. -/
def relativePath (root : Option (List Char)) (path : List Char) : Option (List Char) :=
  if isAbsolute path then root.bind fun text => relativeTo text path else some path

/-- The text that is read of a workspace root. -/
def rootText (w : NativeWorkspace) : List Char := Text.lossy (absoluteBytes w)

variable {workspace : Option NativeWorkspace} {raw r : String}

theorem normalizeAt_eq (workspace : Option NativeWorkspace) (raw : String) :
    normalizeAt workspace raw =
      match (relativePath (workspace.map rootText) (written raw)).bind fun path =>
        foldInside [] (Text.splitAt '/' path) with
      | some segments => .ok (String.ofList (Text.join ['/'] segments))
      | none => .error (.pathEscape raw) := by
  rw [relativePath, Option.bind_map]
  rfl

theorem normalizeAt_ok_iff : normalizeAt workspace raw = .ok r ↔ ∃ path segments,
    relativePath (workspace.map rootText) (written raw) = some path ∧
      foldInside [] (Text.splitAt '/' path) = some segments ∧
        r = String.ofList (Text.join ['/'] segments) := by
  rw [normalizeAt_eq]
  cases hpath : relativePath (workspace.map rootText) (written raw) with
  | none => simp
  | some path =>
    rw [Option.bind_some]
    cases hfold : foldInside [] (Text.splitAt '/' path) with
    | none => simp [hfold]
    | some segments => simp [hfold, eq_comm]

theorem not_mem_unify (cs : List Char) : '\\' ∉ unify cs := by
  intro h
  obtain ⟨c, -, hc⟩ := List.mem_map.1 h
  split at hc
  · exact absurd hc (by decide)
  · rename_i hne
    exact hne hc

theorem relativePath_subset {root : Option (List Char)} {path rest : List Char}
    (h : relativePath root path = some rest) :
    rest ⊆ path := by
  unfold relativePath at h
  split at h
  · obtain ⟨w, -, h⟩ := Option.bind_eq_some_iff.1 h
    unfold relativeTo at h
    split at h
    · cases h
      exact List.nil_subset _
    · rename_i more hstart
      cases h
      rw [Text.afterStart_eq_some_iff.1 hstart]
      exact fun c hc => List.mem_append_right _
        (List.mem_cons_of_mem _ ((List.dropWhile_suffix _).subset hc))
    · cases h
  · cases h
    exact List.Subset.refl _

/-! ## Where a destination leads -/

/-- A path with its backslashes as slashes. -/
def unifyBytes (path : NativePath) : NativePath :=
  path.map fun b => if b = '\\'.toUInt8 then slash else b

/-- The path that a destination stands for in a workspace. -/
def nativePath (w : NativeWorkspace) (path : List Char) : NativePath :=
  if isAbsolute path then Text.encode path
  else unifyBytes (absoluteBytes w) ++ slash :: Text.encode path

/-- Whether a path is a text. -/
def IsText (path : NativePath) : Prop := ∃ text, path = Text.encode text

theorem unifyBytes_append (as bs : NativePath) :
    unifyBytes (as ++ bs) = unifyBytes as ++ unifyBytes bs := List.map_append

theorem unifyBytes_utf8EncodeChar (c : Char) : unifyBytes (String.utf8EncodeChar c) =
    String.utf8EncodeChar (if c = '\\' then '/' else c) := by
  by_cases hc : c = '\\'
  · subst hc
    rfl
  · rw [if_neg hc, unifyBytes]
    refine (List.map_congr_left fun b hb => if_neg ?_).trans (List.map_id' _)
    rintro rfl
    exact Text.not_mem_utf8EncodeChar (by decide) hc hb

theorem unifyBytes_encode (path : List Char) :
    unifyBytes (Text.encode path) = Text.encode (unify path) := by
  induction path with
  | nil => rfl
  | cons c rest ih =>
    rw [Text.encode_cons, unifyBytes_append, unifyBytes_utf8EncodeChar, ih, ← Text.encode_cons]
    rfl

/-- What a destination names relative to the root leads from there to its place, if the root's path
is a text. A relative one leads to its place from any root. -/
theorem nativePlace_nativePath {path rest : List Char}
    (h : relativePath (workspace.map rootText) path = some rest) {w : NativeWorkspace}
    (hw : isAbsolute path → workspace = some w ∧ IsText (absoluteBytes w)) :
    nativePlace (nativePath w path) = foldRooted dot (nativePlace (unifyBytes (absoluteBytes w)))
      ((Text.splitAt '/' rest).map Text.encode) := by
  unfold relativePath at h
  unfold nativePath
  split at h
  · rename_i habs
    obtain ⟨rfl, root, hroot⟩ := hw habs
    rw [Option.map_some, Option.bind_some, rootText, hroot, Text.lossy_encode] at h
    rw [if_pos habs, hroot, unifyBytes_encode, nativePlace_encode, nativePlace_encode,
      placeOf_of_relativeTo h, foldRooted_encode]
  · rename_i hrel
    cases h
    rw [if_neg hrel, nativePlace, foldRooted_splitAt_append, Text.splitAt_encode (by decide)]
    rfl

/-- Names lead from a place down. -/
theorem nativePlace_join (base : NativePath)
    (h : ∀ s ∈ segments, Layout.isPlainSegment s ∧ '/' ∉ s) :
    nativePlace (base ++ slash :: Text.encode (Text.join ['/'] segments)) =
      nativePlace base ++ segments.map Text.encode := by
  rw [nativePlace, foldRooted_splitAt_append, Text.splitAt_encode (by decide)]
  by_cases hne : segments = []
  · subst hne
    exact (List.append_nil _).symm
  · have inside := foldInside_of_isPlainSegment [] fun s hs => (h s hs).1
    rw [Text.splitAt_join_of_not_mem hne fun s hs => (h s hs).2]
    have below := foldRooted_of_foldInside (nativePlace base) inside
    rwa [List.map_nil, List.append_nil, List.nil_append] at below

/-- An absolute text needs a workspace. -/
theorem normalizeAt_none (habs : isAbsolute (written raw)) :
    normalizeAt none raw = .error (.pathEscape raw) := by
  rw [normalizeAt_eq, relativePath, if_pos habs]
  rfl

/-- A relative text is refused if `..` leads out of the root. -/
theorem normalizeAt_eq_error_iff (hrel : ¬ isAbsolute (written raw)) :
    normalizeAt workspace raw = .error (.pathEscape raw) ↔
      foldInside [] (Text.splitAt '/' (written raw)) = none := by
  rw [normalizeAt_eq, relativePath, if_neg hrel, Option.bind_some]
  cases foldInside [] (Text.splitAt '/' (written raw)) <;> simp

/-- **Destinations lead where they say.** A destination that is normalized is made of names, and
these lead from the root to the place that its text stands for, if it is relative or the root's path
is a text. An absolute text needs a workspace, and a relative one is refused exactly if `..` leads
out of the root: in some part at its front it stands more often than there are names. -/
theorem normalizeAt_sound (workspace : Option NativeWorkspace) (raw : String) :
    (∀ r, normalizeAt workspace raw = .ok r → ∃ names : List String,
      r = "/".intercalate names ∧ (∀ name ∈ names, IsName name ∧ '\\' ∉ name.toList) ∧
      ∀ w, (isAbsolute (written raw) → workspace = some w ∧ IsText (absoluteBytes w)) →
        nativePlace (nativePath w (written raw)) =
          nativePlace (unifyBytes (absoluteBytes w) ++ slash :: Text.encode r.toList) ∧
        nativePlace (unifyBytes (absoluteBytes w) ++ slash :: Text.encode r.toList) =
          nativePlace (unifyBytes (absoluteBytes w)) ++
            names.map fun name => Text.encode name.toList) ∧
    (isAbsolute (written raw) → workspace = none →
      normalizeAt workspace raw = .error (.pathEscape raw)) ∧
    (¬ isAbsolute (written raw) → (normalizeAt workspace raw = .error (.pathEscape raw) ↔
      ∃ front, front <+: Text.splitAt '/' (written raw) ∧
        front.countP Layout.isPlainSegment < front.count ['.', '.'])) := by
  refine ⟨fun r h => ?_, fun habs hnone => ?_, fun hrel => ?_⟩
  · obtain ⟨path, segments, hpath, hfold, rfl⟩ := normalizeAt_ok_iff.1 h
    have names := foldInside_splitAt hfold
    refine ⟨segments.map String.ofList, Text.ofList_join segments, ?_, fun w hw => ?_⟩
    · rw [List.forall_mem_map]
      intro s hs
      obtain ⟨plain, noSlash, hsub⟩ := names s hs
      refine ⟨isName_of_isPlainSegment plain noSlash, fun h => ?_⟩
      rw [String.toList_ofList] at h
      exact not_mem_unify _ (relativePath_subset hpath (hsub h))
    · have below := nativePlace_join (unifyBytes (absoluteBytes w)) fun s hs =>
        ⟨(names s hs).1, (names s hs).2.1⟩
      have same : ((segments.map String.ofList).map fun name => Text.encode name.toList) =
          segments.map Text.encode := by
        simp [Function.comp_def]
      rw [nativePlace_nativePath hpath hw, String.toList_ofList, below, same]
      have leads := foldRooted_of_foldInside (nativePlace (unifyBytes (absoluteBytes w))) hfold
      exact ⟨by simpa using leads, rfl⟩
  · rw [hnone, normalizeAt_none habs]
  · rw [normalizeAt_eq_error_iff hrel, foldInside_eq_none_iff, List.length_nil]
    simp only [Nat.zero_add]

/-- A root whose path has backslashes and `..` in it. -/
def crookedRoot : Workspace := { root := "a\\..\\b/c/..", currentDirectory := "/home" }

/-- A root with a byte in its path that is no character. -/
def strayRoot : NativeWorkspace :=
  { root := Text.encode "/srv/x".toList ++ 0xFF :: Text.encode "y".toList, currentDirectory := [] }

/-- A destination that takes detours leads to its place, an absolute one in a root with a text and a
relative one in any root. -/
theorem crookedRoot_sound :
    (normalizeAt (some crookedRoot.native) " /home/a/../b//x\\../y " = .ok "y" ∧
      nativePlace (nativePath crookedRoot.native (written " /home/a/../b//x\\../y ")) =
        ["home", "b", "y"].map fun name => Text.encode name.toList) ∧
    normalizeAt (some strayRoot) "a/..\\p" = .ok "p" ∧
      nativePlace (nativePath strayRoot (written "a/..\\p")) =
        nativePlace (unifyBytes (absoluteBytes strayRoot)) ++ [Text.encode "p".toList] := by
  have absolute : normalizeAt (some crookedRoot.native) " /home/a/../b//x\\../y " = .ok "y" := by
    decide +kernel
  have relative : normalizeAt (some strayRoot) "a/..\\p" = .ok "p" := by decide +kernel
  have text : IsText (absoluteBytes crookedRoot.native) :=
    ⟨"/home/a\\..\\b".toList, by decide +kernel⟩
  have relative' : ¬ isAbsolute (written "a/..\\p") := by decide +kernel
  obtain ⟨_, -, -, leads⟩ := (normalizeAt_sound _ _).1 _ absolute
  obtain ⟨_, -, -, leads'⟩ := (normalizeAt_sound _ _).1 _ relative
  refine ⟨⟨absolute, ?_⟩, relative, ?_⟩
  · rw [(leads _ fun _ => ⟨rfl, text⟩).1]
    decide +kernel
  · rw [(leads' strayRoot fun h => absurd h relative').1]
    decide +kernel

/-- In a workspace whose path is no text, an absolute destination can lead to another place. -/
theorem strayRoot_misleads : ¬ ∀ (workspace : Option NativeWorkspace) (raw r : String),
    normalizeAt workspace raw = .ok r →
      ∀ w, (isAbsolute (written raw) → workspace = some w) →
        nativePlace (nativePath w (written raw)) =
          nativePlace (unifyBytes (absoluteBytes w) ++ slash :: Text.encode r.toList) := by
  intro leads
  have normalized : normalizeAt (some strayRoot) "/srv/x\uFFFDy/p" = .ok "p" := by decide +kernel
  have same := leads _ _ _ normalized strayRoot fun _ => rfl
  exact absurd same (by decide +kernel)

/-! ## Destinations in the root -/

theorem unify_append (as bs : List Char) : unify (as ++ bs) = unify as ++ unify bs :=
  List.map_append

/-- Slashes at the end of a root do not count, whether they are taken off before or after
backslashes are read. -/
theorem dropEndWhile_unify (root : List Char) :
    Text.dropEndWhile (· = '/') (unify (Text.dropEndWhile (· = '/') root)) =
      Text.dropEndWhile (· = '/') (unify root) := by
  obtain ⟨tail, hroot, htail⟩ := Text.exists_end (· = '/') root
  have slashes : ∀ c ∈ unify tail, c = '/' := by
    intro c hc
    obtain ⟨c', hc', rfl⟩ := List.mem_map.1 hc
    obtain rfl : c' = '/' := by simpa using htail c' hc'
    rfl
  conv_rhs => rw [hroot, unify_append]
  exact (Text.dropEndWhile_append _ (by simpa using slashes)).symm

/-- What follows the path of the root in an absolute path is what is left of it, however many
slashes the root ends with. -/
theorem relativeTo_behind (root : List Char) {path : List Char} (hrel : ¬ isAbsolute path) :
    relativeTo root (unify (Text.dropEndWhile (· = '/') root) ++ '/' :: path) = some path := by
  obtain ⟨more, hfront, hmore⟩ :=
    Text.exists_end (· = '/') (unify (Text.dropEndWhile (· = '/') root))
  rw [dropEndWhile_unify] at hfront
  have start : Text.afterStart (Text.dropEndWhile (· = '/') (unify root))
      (unify (Text.dropEndWhile (· = '/') root) ++ '/' :: path) = some (more ++ '/' :: path) := by
    rw [Text.afterStart_eq_some_iff, ← List.append_assoc, ← hfront]
  have rest : path.dropWhile (· = '/') = path := by
    cases path with
    | nil => rfl
    | cons c cs => exact List.dropWhile_cons_of_neg (by simpa [isAbsolute] using hrel)
  rw [relativeTo, start]
  cases more with
  | nil => exact congrArg some rest
  | cons c more =>
    obtain ⟨hc, others⟩ := List.forall_mem_cons.1 hmore
    obtain rfl : c = '/' := by simpa using hc
    refine congrArg some (?_ : (more ++ '/' :: path).dropWhile (· = '/') = path)
    rw [List.dropWhile_append_of_pos others, List.dropWhile_cons_of_pos (by simp), rest]

/-- The absolute path of a workspace root that is a text. -/
def absoluteRoot (w : Workspace) : List Char :=
  absolute '/' '.' w.root.toList w.currentDirectory.toList

theorem absolute_encode (root currentDirectory : List Char) :
    absolute slash dot (Text.encode root) (Text.encode currentDirectory) =
      Text.encode (absolute '/' '.' root currentDirectory) := by
  have hcons (cs : List Char) : slash :: Text.encode cs = Text.encode ('/' :: cs) := rfl
  have hhead : (Text.encode root).head? = some slash ↔ root.head? = some '/' :=
    Text.head?_encode_eq_some (by decide) root
  simp only [absolute, hhead, hcons, ← Text.encode_append, ← apply_ite Text.encode]
  rw [Text.splitAt_encode (by decide), Text.encode_cons, Text.encode_join (by decide),
    ← foldRooted_encode]
  rfl

/-- The text that is read of a root is its own. -/
theorem rootText_native (w : Workspace) : rootText w.native = absoluteRoot w := by
  rw [rootText, absoluteBytes, Workspace.native, absolute_encode, Text.lossy_encode, absoluteRoot]

/-- Two destinations that name the same relative to the root are normalized to the same or both
refused. -/
theorem normalize_of_relativePath {w : Workspace} {raw' : String}
    (h : relativePath (some (absoluteRoot w)) (written raw) =
      relativePath (some (absoluteRoot w)) (written raw')) :
    (∃ r, normalize (some w) raw = .ok r ∧ normalize (some w) raw' = .ok r) ∨
      normalize (some w) raw = .error (.pathEscape raw) ∧
        normalize (some w) raw' = .error (.pathEscape raw') := by
  rw [normalize, normalize, normalizeAt_eq, normalizeAt_eq, Option.map_some, Option.map_some,
    rootText_native, h]
  cases (relativePath (some (absoluteRoot w)) (written raw')).bind fun path =>
      foldInside [] (Text.splitAt '/' path) with
  | none => exact .inr ⟨rfl, rfl⟩
  | some segments => exact .inl ⟨_, rfl, rfl⟩

/-- The text of a destination behind the path of a root, as an absolute one. -/
def behindRoot (w : Workspace) (path : String) : String :=
  String.ofList (Text.dropEndWhile (· = '/') (absoluteRoot w) ++ '/' :: path.toList)

theorem written_of_trim {path : String} (h : Text.trim path = path) :
    written path = unify path.toList := by
  rw [written, Text.stripWhile_of_trim h]

/-- It begins with the slash of the root, or the one behind it if nothing is left of the root. -/
theorem behindRoot_eq_cons (w : Workspace) (path : String) :
    ∃ rest, (behindRoot w path).toList = '/' :: rest := by
  rw [behindRoot, String.toList_ofList, Text.dropEndWhile_eq]
  rcases List.prefix_cons_iff.1 (List.rdropWhile_prefix (· = '/') (l := absoluteRoot w)) with
    hnil | ⟨front, hfront, -⟩
  · exact ⟨path.toList, by rw [hnil]; rfl⟩
  · exact ⟨front ++ '/' :: path.toList, by rw [hfront]; rfl⟩

theorem stripWhile_behindRoot (w : Workspace) {path : String} (h : Text.trim path = path) :
    Text.stripWhile Unicode.isBlank (behindRoot w path).toList = (behindRoot w path).toList := by
  have slash : ¬ Unicode.isBlank '/' := by decide
  have kept : Text.dropEndWhile Unicode.isBlank path.toList = path.toList := by
    rw [← Text.stripWhile_of_trim h, Text.dropEndWhile_stripWhile]
  obtain ⟨rest, hrest⟩ := behindRoot_eq_cons w path
  rw [hrest, Text.stripWhile_cons slash, ← hrest, behindRoot, String.toList_ofList,
    Text.dropEndWhile_append_cons _ slash kept]

/-- **An absolute destination in the root means the same as its relative form.** Behind the path of
the root, a relative destination is normalized to the same as alone, or refused as it is alone. -/
theorem normalize_behindRoot (w : Workspace) {path : String} (trimmed : Text.trim path = path)
    (relative : ¬ isAbsolute (unify path.toList)) :
    (∃ r, normalize (some w) (behindRoot w path) = .ok r ∧ normalize (some w) path = .ok r) ∨
      normalize (some w) (behindRoot w path) = .error (.pathEscape (behindRoot w path)) ∧
        normalize (some w) path = .error (.pathEscape path) := by
  refine normalize_of_relativePath ?_
  have alone : written path = unify path.toList := written_of_trim trimmed
  have behind : written (behindRoot w path) = unify (behindRoot w path).toList := by
    rw [written, stripWhile_behindRoot w trimmed]
  have absolute : isAbsolute (unify (behindRoot w path).toList) := by
    obtain ⟨rest, hrest⟩ := behindRoot_eq_cons w path
    rw [hrest]
    rfl
  have parts : unify (behindRoot w path).toList =
      unify (Text.dropEndWhile (· = '/') (absoluteRoot w)) ++ '/' :: unify path.toList := by
    rw [behindRoot, String.toList_ofList, unify_append]
    rfl
  calc relativePath (some (absoluteRoot w)) (written (behindRoot w path))
      = relativeTo (absoluteRoot w) (unify (behindRoot w path).toList) := by
        rw [behind, relativePath, if_pos absolute, Option.bind_some]
    _ = some (unify path.toList) := by rw [parts, relativeTo_behind _ relative]
    _ = relativePath (some (absoluteRoot w)) (written path) := by
        rw [alone, relativePath, if_neg relative]

/-- Behind a root with backslashes a destination is cut off where the root's path ends. -/
theorem crookedRoot_behind :
    behindRoot crookedRoot ".\\x//../y" = "/home/a\\..\\b/.\\x//../y" ∧
    normalize (some crookedRoot) ".\\x//../y" = .ok "y" ∧
    normalize (some crookedRoot) "/home/a\\..\\b/.\\x//../y" = .ok "y" := by
  have text : behindRoot crookedRoot ".\\x//../y" = "/home/a\\..\\b/.\\x//../y" := by
    decide +kernel
  have alone : normalize (some crookedRoot) ".\\x//../y" = .ok "y" := by decide +kernel
  have trimmed : Text.trim ".\\x//../y" = ".\\x//../y" := by decide +kernel
  rcases normalize_behindRoot crookedRoot trimmed (by decide +kernel) with
    ⟨r, behind, hr⟩ | ⟨-, refused⟩
  · rw [alone] at hr
    cases hr
    exact ⟨text, alone, text ▸ behind⟩
  · rw [alone] at refused
    cases refused

end Destination
end Stencil
