import MylifeHome.Lib.Text
import Mathlib.Data.List.Induction

/-!
# Paths

`join` and `parse` of the POSIX version of the module `path` of Node, as far as the names of
files go.
-/
namespace MylifeHome.Lib.Path

/-- A segment after those that were passed, the last one first. -/
def pass (absolute : Bool) (passed : List String) (segment : String) : List String :=
  if segment = "" ∨ segment = "." then passed
  else if segment = ".." then
    match passed with
    | [] => if absolute then [] else [".."]
    | last :: before => if last = ".." then ".." :: last :: before else before
  else segment :: passed

/-- The segments of a path without `.`, `..` and empty ones. -/
def resolve (absolute : Bool) (segments : List String) : List String :=
  (segments.foldl (pass absolute) []).reverse

def isAbsolute (path : String) : Bool := path.toList.head? = some '/'

/-- `normalize`, of a path that does not end with a slash. -/
def normalize (path : String) : String :=
  let segments := resolve (isAbsolute path) (Text.split path '/')
  if isAbsolute path then "/" ++ "/".intercalate segments
  else if segments = [] then "."
  else "/".intercalate segments

def join (directory file : String) : String :=
  normalize (if directory = "" then file else if file = "" then directory
    else directory ++ "/" ++ file)

/-- The `base` of `parse`. -/
def base (path : String) : String := ((Text.split path '/').filter (· ≠ "")).getLast?.getD ""

/-- The `name` of `parse`: the base up to its last dot, unless that is its first character or
the base is `..`. -/
def name (path : String) : String :=
  if base path = ".." then ".."
  else
    match (base path).toList.reverse.dropWhile (· ≠ '.') with
    | _ :: c :: before => String.ofList (c :: before).reverse
    | _ => base path

/-- The `dir` of `parse`, of a relative path. -/
def dir (path : String) : String := "/".intercalate (Text.split path '/').dropLast

/-- The segments of a path from the root of the file system. -/
def absolute (cwd path : String) : List String :=
  resolve true (if isAbsolute path then Text.split path '/'
    else Text.split cwd '/' ++ Text.split path '/')

/-- How many segments two paths have in common at their beginning. -/
def common : List String → List String → Nat
  | a :: as, b :: bs => if a = b then common as bs + 1 else 0
  | _, _ => 0

def relative (cwd start target : String) : String :=
  let s := absolute cwd start
  let t := absolute cwd target
  "/".intercalate (List.replicate (s.length - common s t) ".." ++ t.drop (common s t))

section File

variable {file : String}

theorem resolve_concat (h : file ≠ "" ∧ file ≠ "." ∧ file ≠ "..") (absolute : Bool)
    (segments : List String) :
    resolve absolute (segments ++ [file]) = resolve absolute segments ++ [file] := by
  simp [resolve, pass, h]

theorem not_mem_resolve {absolute : Bool} {segments : List String}
    (h : ∀ segment ∈ segments, '/' ∉ segment.toList) :
    ∀ segment ∈ resolve absolute segments, '/' ∉ segment.toList := by
  unfold resolve
  induction segments using List.reverseRecOn with
  | nil => simp
  | append_singleton segments segment ih =>
    have ih := ih fun s hs => h s (List.mem_append_left _ hs)
    have hsegment := h segment (List.mem_append_right _ List.mem_cons_self)
    simp only [List.mem_reverse, List.foldl_append, List.foldl_cons, List.foldl_nil] at ih ⊢
    generalize segments.foldl (pass absolute) [] = passed at ih
    unfold pass
    split
    · exact ih
    · split
      · cases passed with
        | nil => cases absolute <;> decide
        | cons last before =>
          dsimp only
          split
          · exact List.forall_mem_cons.mpr ⟨by decide, ih⟩
          · exact fun s hs => ih s (List.mem_cons_of_mem _ hs)
      · exact List.forall_mem_cons.mpr ⟨hsegment, ih⟩

theorem intercalate_concat (separator : List Char) {l : List (List Char)} (h : l ≠ [])
    (x : List Char) :
    separator.intercalate (l ++ [x]) = separator.intercalate l ++ separator ++ x := by
  induction l with
  | nil => exact absurd rfl h
  | cons y l ih =>
    cases l with
    | nil => simp [List.intercalate, List.intersperse]
    | cons z l =>
      have ih := ih (by simp)
      simp only [List.intercalate, List.cons_append, List.intersperse, List.flatten_cons,
        List.append_assoc] at ih ⊢
      rw [ih]

theorem split_concat (directory : String) (h : '/' ∉ file.toList) :
    Text.split (directory ++ "/" ++ file) '/' = Text.split directory '/' ++ [file] := by
  refine Text.split_of_toList ?_ (by simp) ?_
  · intro part hpart
    obtain hpart | hpart := List.mem_append.mp hpart
    · exact Text.not_mem_of_mem_split hpart
    · rw [List.mem_singleton.mp hpart]
      exact h
  · have hsplit : (Text.split directory '/').map String.toList = directory.toList.splitOn '/' := by
      simp [Text.split, Function.comp_def]
    rw [List.map_append, List.map_singleton,
      intercalate_concat _ (by rw [hsplit]; exact List.splitOnP_ne_nil _ _), hsplit,
      List.intercalate_splitOn]
    simp

/-- The last segment of a path that is joined of segments. -/
theorem base_intercalate {segments : List String} (h : ∀ segment ∈ segments, '/' ∉ segment.toList)
    (hslash : '/' ∉ file.toList) (hne : file ≠ "") : base ("/".intercalate (segments ++ [file])) =
      file := by
  have hsplit : Text.split ("/".intercalate (segments ++ [file])) '/' = segments ++ [file] := by
    refine Text.split_of_toList ?_ (by simp) (by simp [String.toList_intercalate])
    intro segment hsegment
    obtain hsegment | hsegment := List.mem_append.mp hsegment
    · exact h segment hsegment
    · rw [List.mem_singleton.mp hsegment]
      exact hslash
  rw [base, hsplit]
  simp [hne]

/-- The file of a path that is joined from a directory and a file name. -/
theorem base_join (h : file ≠ "" ∧ file ≠ "." ∧ file ≠ "..") (hslash : '/' ∉ file.toList)
    (directory : String) :
    base (join directory file) = file := by
  obtain ⟨path, segments, hpath, hsplit, hsegments⟩ : ∃ path segments, join directory file =
    normalize path ∧
      Text.split path '/' = segments ++ [file] ∧ ∀ segment ∈ segments, '/' ∉ segment.toList := by
    unfold join
    split
    · exact ⟨file, [], rfl, Text.split_of_toList (by simpa using hslash) (by simp) (by simp),
        by simp⟩
    · rw [if_neg h.1]
      exact ⟨_, _, rfl, split_concat directory hslash, fun _ => Text.not_mem_of_mem_split⟩
  have hresolve := @not_mem_resolve (isAbsolute path) _ hsegments
  rw [hpath, normalize, hsplit, resolve_concat h]
  split
  · rw [show "/" ++ "/".intercalate (resolve (isAbsolute path) segments ++ [file]) =
      "/".intercalate (("" :: resolve (isAbsolute path) segments) ++ [file]) from ?_]
    · exact base_intercalate (List.forall_mem_cons.mpr ⟨by simp, hresolve⟩) hslash h.1
    · rw [List.cons_append, String.intercalate_cons_of_ne_nil (by simp)]
      simp
  · rw [if_neg (by simp)]
    exact base_intercalate hresolve hslash h.1

/-- The name of a file is found again without its extension. -/
theorem name_join {id extension : String} (hid : id ≠ "")
    (hslash : '/' ∉ (id ++ "." ++ extension).toList) (hdot : '.' ∉ extension.toList)
    (hext : extension ≠ "") (directory : String) :
    name (join directory (id ++ "." ++ extension)) = id := by
  have hdrop : (id ++ "." ++ extension).toList.reverse.dropWhile (· ≠ '.') =
      '.' :: id.toList.reverse := by
    rw [String.toList_append, String.toList_append, List.reverse_append,
      List.dropWhile_append_of_pos]
    · simp
    · intro c hc
      have hne : c ≠ '.' := fun he => hdot (he ▸ List.mem_reverse.mp hc)
      simpa using hne
  have hlong : ∀ text : String, text.length ≤ 2 → id ++ "." ++ extension ≠ text := by
    rintro text htext rfl
    have hid' : id.length ≠ 0 := fun he => hid (String.length_eq_zero_iff.mp he)
    have hext' : extension.length ≠ 0 := fun he => hext (String.length_eq_zero_iff.mp he)
    rw [String.length_append, String.length_append, show ".".length = 1 from rfl] at htext
    omega
  have hbase := base_join ⟨hlong _ (by decide), hlong _ (by decide), hlong _ (by decide)⟩ hslash
    directory
  rw [name, hbase, if_neg (hlong _ (by decide)), hdrop]
  cases hrev : id.toList.reverse with
  | nil => exact absurd (by simpa using hrev) hid
  | cons c before =>
    dsimp only
    rw [← hrev, List.reverse_reverse, String.ofList_toList]

end File

/-! ## Paths of plain segments -/

/-- A segment that is a name. -/
structure Plain (segment : String) : Prop where
  ne_empty : segment ≠ ""
  ne_dot : segment ≠ "."
  ne_dots : segment ≠ ".."
  no_slash : '/' ∉ segment.toList

/-- The relative path of the segments. -/
def ofSegments (segments : List String) : String := if segments = [] then "."
    else "/".intercalate segments

section Segments

variable {segments : List String} {segment : String}

theorem foldl_pass_plain (h : ∀ s ∈ segments, Plain s) (absolute : Bool) (passed : List String) :
    segments.foldl (pass absolute) passed = segments.reverse ++ passed := by
  induction segments generalizing passed with
  | nil => rfl
  | cons s segments ih =>
    obtain ⟨hs, hrest⟩ := List.forall_mem_cons.mp h
    have hpass : pass absolute passed s = s :: passed := by
      unfold pass
      rw [if_neg (not_or.mpr ⟨hs.ne_empty, hs.ne_dot⟩), if_neg hs.ne_dots]
    rw [List.foldl_cons, hpass, ih hrest, List.reverse_cons, List.append_assoc]
    rfl

theorem resolve_append_plain (h : ∀ s ∈ segments, Plain s) (absolute : Bool) (l : List String) :
    resolve absolute (l ++ segments) = resolve absolute l ++ segments := by
  unfold resolve
  rw [List.foldl_append, foldl_pass_plain h, List.reverse_append, List.reverse_reverse]

theorem resolve_plain (h : ∀ s ∈ segments, Plain s) (absolute : Bool) :
    resolve absolute segments = segments :=
  resolve_append_plain h absolute []

theorem split_intercalate (hne : segments ≠ []) (h : ∀ s ∈ segments, Plain s) :
    Text.split ("/".intercalate segments) '/' = segments :=
  Text.split_of_toList (fun s hs => (h s hs).no_slash) hne (by simp [String.toList_intercalate])

theorem split_ofSegments (hne : segments ≠ []) (h : ∀ s ∈ segments, Plain s) :
    Text.split (ofSegments segments) '/' = segments := by
  rw [ofSegments, if_neg hne, split_intercalate hne h]

theorem isAbsolute_ofSegments (h : ∀ s ∈ segments, Plain s) : isAbsolute (ofSegments segments) =
    false := by
  unfold ofSegments isAbsolute
  split
  · rfl
  · next hne =>
    obtain ⟨s, rest, rfl⟩ := List.exists_cons_of_ne_nil hne
    have hs := h s List.mem_cons_self
    have hhead : ∃ c, s.toList.head? = some c ∧ c ≠ '/' := by
      cases hl : s.toList with
      | nil => exact absurd (by simpa using hl) hs.ne_empty
      | cons c cs =>
        refine ⟨c, rfl, fun hc => hs.no_slash ?_⟩
        rw [hl, hc]
        exact List.mem_cons_self
    obtain ⟨c, hc, hslash⟩ := hhead
    have hfirst : ("/".intercalate (s :: rest)).toList.head? = some c := by
      cases rest with
      | nil => simpa using hc
      | cons s' rest =>
        rw [String.intercalate_cons_of_ne_nil (by simp), String.toList_append, String.toList_append]
        simp [List.head?_append, hc]
    rw [hfirst]
    simpa using hslash

theorem join_ofSegments (h : ∀ s ∈ segments, Plain s) (hs : Plain segment) :
    join (ofSegments segments) segment = ofSegments (segments ++ [segment]) := by
  have hplain : ∀ s ∈ segments ++ [segment], Plain s := by
    intro s hmem
    rcases List.mem_append.mp hmem with hmem | hmem
    · exact h s hmem
    · exact List.mem_singleton.mp hmem ▸ hs
  have hne : ofSegments segments ≠ "" := by
    unfold ofSegments
    split
    · decide
    · next hnil =>
      intro hempty
      have hsplit := split_intercalate hnil h
      rw [hempty] at hsplit
      have hmem : "" ∈ segments := by rw [← hsplit]; decide
      exact (h "" hmem).ne_empty rfl
  have habsolute : isAbsolute (ofSegments segments ++ "/" ++ segment) = false := by
    have hfirst := isAbsolute_ofSegments h
    unfold isAbsolute at hfirst ⊢
    rw [String.toList_append, String.toList_append, List.append_assoc,
      List.head?_append_of_ne_nil _ (by simpa using hne)]
    exact hfirst
  rw [join, if_neg hne, if_neg hs.ne_empty, normalize, habsolute, split_concat _ hs.no_slash]
  have hresolve : resolve false (Text.split (ofSegments segments) '/' ++ [segment]) =
      segments ++ [segment] := by
    rw [resolve_append_plain (by simpa using hs)]
    by_cases hnil : segments = []
    · subst hnil
      rfl
    · rw [split_ofSegments hnil h, resolve_plain h]
  rw [hresolve, ofSegments]
  simp

theorem join_empty (hs : Plain segment) : join "" segment = ofSegments [segment] := by
  have hplain : ∀ s ∈ [segment], Plain s := by simpa using hs
  have hsegments : ofSegments [segment] = segment := by simp [ofSegments]
  have habsolute := isAbsolute_ofSegments hplain
  have hsplit := split_ofSegments (by simp) hplain
  rw [hsegments] at habsolute hsplit ⊢
  rw [join, if_pos rfl, normalize, habsolute, hsplit, resolve_plain hplain]
  simp

theorem common_append (l l' : List String) : common l (l ++ l') = l.length := by
  induction l with
  | nil => cases l' <;> rfl
  | cons a l ih => simp [common, ih]

theorem absolute_empty (cwd : String) : absolute cwd "" = resolve true (Text.split cwd '/') := by
  show resolve true (Text.split cwd '/' ++ [""]) = _
  unfold resolve
  rw [List.foldl_append]
  rfl

/-- A relative path of plain segments is its own, from the working directory. -/
theorem relative_ofSegments (cwd : String) (hne : segments ≠ []) (h : ∀ s ∈ segments, Plain s) :
    relative cwd "" (ofSegments segments) = "/".intercalate segments := by
  have habsolute : absolute cwd (ofSegments segments) = absolute cwd "" ++ segments := by
    rw [absolute_empty, absolute, isAbsolute_ofSegments h, split_ofSegments hne h]
    exact resolve_append_plain h true _
  unfold relative
  simp only [habsolute, common_append]
  simp

theorem relative_dot (cwd : String) : relative cwd "" "." = "" := by
  have habsolute : absolute cwd "." = absolute cwd "" := by
    rw [absolute_empty]
    show resolve true (Text.split cwd '/' ++ ["."]) = _
    unfold resolve
    rw [List.foldl_append]
    rfl
  have hcommon := common_append (absolute cwd "") []
  rw [List.append_nil] at hcommon
  unfold relative
  simp only [habsolute, hcommon]
  simp

theorem dir_intercalate (hne : segments ≠ []) (h : ∀ s ∈ segments, Plain s) :
    dir ("/".intercalate segments) = "/".intercalate segments.dropLast := by
  rw [dir, split_intercalate hne h]

theorem base_plain (hne : segments ≠ []) (h : ∀ s ∈ segments, Plain s) :
    base ("/".intercalate segments) = segments.getLast?.getD "" := by
  rw [base, split_intercalate hne h, List.filter_eq_self.mpr]
  intro s hs
  simpa using (h s hs).ne_empty

end Segments

end MylifeHome.Lib.Path
