import JetKvm.VirtualMedia.UploadFiles

/-!
# Uploads one after the other

As long as every handler that changes an incomplete file is the only one to have changed it since
its size was read, a file that gets its final name has the declared size and has been received in
order.
-/

namespace JetKvm.VirtualMedia

variable {Thread : Type*}

namespace UploadStore

/-! ### The condition -/

/-- The changes of the incomplete file since its size was read are those of certain threads. -/
def ChangedBy (s : UploadStore Thread) (mine : Thread → Prop) (filename : String)
    (changes : ℕ) : Prop :=
  ∀ j ∈ (s.changes filename).drop changes, mine j

/-- Only the thread itself has changed the incomplete file of its upload. -/
def Alone (s : UploadStore Thread) (i : Thread) (upload : PendingUpload) : Prop :=
  s.ChangedBy (fun j => j = i) upload.filename upload.changes

instance [DecidableEq Thread] (s : UploadStore Thread) (i : Thread) (upload : PendingUpload) :
    Decidable (s.Alone i upload) :=
  inferInstanceAs (Decidable (∀ j ∈ _, _))

/-- If the handler writes the bytes, it is alone. -/
def WritesAlone (s : UploadStore Thread) (i : Thread) (h : UploadHandler Thread)
    (data : List UInt8) : Prop :=
  data ≠ [] → s.closed h.uploadId = false → s.Alone i h.upload

/-- If the handler renames the file, it is alone and has counted what it has written, and the final
name is not the one of an incomplete file. -/
def RenamesAlone (s : UploadStore Thread) (i : Thread) (h : UploadHandler Thread)
    (uncounted : Option ℕ) : Prop :=
  h.phase = .closed → h.totalBytesWritten = h.upload.Size →
    (s.folder (uploadPath h.upload.filename)).isSome →
      s.Alone i h.upload ∧ uncounted.getD 0 = 0 ∧
        ¬ ".incomplete".toList <:+ h.upload.filename.toList

instance [DecidableEq Thread] (s : UploadStore Thread) (i : Thread) (h : UploadHandler Thread)
    (data : List UInt8) : Decidable (s.WritesAlone i h data) :=
  inferInstanceAs (Decidable (_ → _ → _))

instance [DecidableEq Thread] (s : UploadStore Thread) (i : Thread) (h : UploadHandler Thread)
    (uncounted : Option ℕ) : Decidable (s.RenamesAlone i h uncounted) :=
  inferInstanceAs (Decidable (_ → _ → _ → _))

end UploadStore

/-- The handler that a thread is, and the length of what it has not counted. -/
def UploadThread.handling : UploadThread Thread → Option (UploadHandler Thread × Option ℕ)
  | .channel h => some (h.toUploadHandler, h.uncounted)
  | .http h => some (h, none)
  | .idle => none
  | .opening _ _ => none
  | .sized _ _ _ _ => none
  | .returned => none

/-- The file has been closed. -/
def UploadEnd.hasClosed : UploadEnd → Bool
  | .receiving => false
  | .leaving => false
  | .closed => true
  | .renamed => true
  | .deleted => true

/-- The file has been given its final name, if it is to be. -/
def UploadEnd.hasRenamed : UploadEnd → Bool
  | .receiving => false
  | .leaving => false
  | .closed => false
  | .renamed => true
  | .deleted => true

/-- The bytes that arrive. -/
def UploadEvent.data : UploadEvent Thread → Option (List UInt8)
  | .message data => some data
  | .read data _ => some data
  | _ => none

/-- A handler that changes the incomplete file in a step is alone. -/
def ChangesAlone (s : UploadStore Thread) (i : Thread) (l : UploadThread Thread)
    (event : UploadEvent Thread) : Prop :=
  ∀ h ∈ l.handling, (∀ data ∈ event.data, s.WritesAlone i h.1 data) ∧
    (event = .next → s.RenamesAlone i h.1 h.2)

instance [DecidableEq Thread] (s : UploadStore Thread) (i : Thread) (l : UploadThread Thread)
    (event : UploadEvent Thread) : Decidable (ChangesAlone s i l event) :=
  inferInstanceAs (Decidable (∀ h ∈ l.handling, _ ∧ (_ → _)))

/-! ### Names of files -/

section Names

variable {Name File : Type*} [DecidableEq Name] {folder : Name → Option File} {name : Name}
  {file : File}

/-- A name that is removed is no name of a file. -/
theorem of_update_none {p : Name} (hp : Function.update folder name none p = some file) :
  folder p = some file ∧ p ≠ name
  := by
  by_cases hname : p = name
  · rw [hname, Function.update_self] at hp
    cases hp
  · rw [Function.update_of_ne hname] at hp
    exact ⟨hp, hname⟩

/-- A new name of a file that had none is its only name. -/
theorem eq_of_update_some (hinjective : ∀ {p q file}, folder p = some file →
      folder q = some file → p = q)
    (hfresh : ∀ p, folder p ≠ some file) {p q : Name} {other : File}
    (hp : Function.update folder name (some file) p = some other)
    (hq : Function.update folder name (some file) q = some other) :
  p = q
  := by
  by_cases hpn : p = name
  · by_cases hqn : q = name
    · rw [hpn, hqn]
    · rw [hpn, Function.update_self] at hp
      rw [Function.update_of_ne hqn, ← hp] at hq
      exact absurd hq (hfresh q)
  · rw [Function.update_of_ne hpn] at hp
    by_cases hqn : q = name
    · rw [hqn, Function.update_self] at hq
      rw [← hq] at hp
      exact absurd hp (hfresh p)
    · rw [Function.update_of_ne hqn] at hq
      apply hinjective hp hq

/-- What holds of the files that have names and of a file that gets one holds of all files that have
names. -/
theorem forall_update_some {P : File → Prop} (h : ∀ {p file}, folder p = some file → P file)
    (hfile : P file) {p : Name} {other : File}
    (hp : Function.update folder name (some file) p = some other) :
  P other
  := by
  by_cases hpn : p = name
  · rw [hpn, Function.update_self] at hp
    rwa [← Option.some.inj hp]
  · rw [Function.update_of_ne hpn] at hp
    apply h hp

end Names

/-! ### Paths -/

theorem uploadPath_injective :
  Function.Injective uploadPath
  := by
  intro filename other h
  rw [uploadPath, uploadPath, filePath, filePath] at h
  apply String.append_right_inj _ |>.mp
  apply String.append_left_inj _ |>.mp h

/-- Only a name that ends in `.incomplete` is the one of an incomplete file. -/
theorem filePath_ne_uploadPath {filename : String}
    (h : ¬ ".incomplete".toList <:+ filename.toList) (other : String) :
  filePath filename ≠ uploadPath other
  := by
  intro heq
  apply h
  have hname : filename = other ++ ".incomplete" := by
    apply String.append_right_inj (imagesFolder ++ "/") |>.mp
    apply heq.trans String.append_assoc
  rw [hname, String.toList_append]
  apply List.suffix_append

/-! ### What a thread knows -/

variable {s s' : UploadStore Thread} {i j : Thread} {mine : Thread → Prop}
  {filename other : String} {changes : ℕ} {P : Option (ℕ × List Chunk) → Prop}

namespace UploadStore

/-- The incomplete file of a name, and its contents. -/
def view (s : UploadStore Thread) (filename : String) : Option (ℕ × List Chunk) :=
  (s.folder (uploadPath filename)).map fun file => (file, s.files file)

/-- What is known of the incomplete file, as long as only certain threads have changed it since its
size was read. -/
def Knows (s : UploadStore Thread) (mine : Thread → Prop) (filename : String) (changes : ℕ)
    (P : Option (ℕ × List Chunk) → Prop) : Prop :=
  changes ≤ (s.changes filename).length ∧ (s.ChangedBy mine filename changes → P (s.view filename))

/-- The thread changes the incomplete file of the name, and no other. -/
structure Changes (s s' : UploadStore Thread) (i : Thread) (filename : String) : Prop where
  changes : s'.changes = Function.update s.changes filename (s.changes filename ++ [i])
  view : ∀ other ≠ filename, s'.view other = s.view other
  closed : s'.closed = s.closed

/-- The incomplete file of a name is opened, and may be created. -/
structure Opens (s s' : UploadStore Thread) (filename : String) : Prop where
  changes : s'.changes = s.changes
  view : ∀ other ≠ filename, s'.view other = s.view other
  opened : s'.view filename = s.view filename ∨
    s.view filename = none ∧ ∃ file, s'.view filename = some (file, [])
  closed : s'.closed = s.closed

/-- What a thread knows is not affected when another thread changes a file. -/
theorem Knows.changed (h : s.Knows mine other changes P) (hchanges : s.Changes s' i filename)
    (hi : ¬ mine i) :
  s'.Knows mine other changes P
  := by
  obtain ⟨hle, hview⟩ := h
  rw [Knows, ChangedBy, hchanges.changes]
  by_cases hname : other = filename
  · subst hname
    rw [Function.update_self, List.length_append, List.drop_append_of_le_length hle]
    constructor
    · apply Nat.le_add_right_of_le hle
    · intro hmine
      exact absurd (hmine i (List.mem_append_right _ (List.mem_singleton_self i))) hi
  · rw [Function.update_of_ne hname, hchanges.view other hname]
    exact ⟨hle, hview⟩

/-- What a thread knows is not affected when a file is opened, if it may as well be empty as
missing. -/
theorem Knows.opened (h : s.Knows mine other changes P) (hopens : s.Opens s' filename)
    (hempty : P none → ∀ file, P (some (file, []))) :
  s'.Knows mine other changes P
  := by
  obtain ⟨hle, hview⟩ := h
  rw [Knows, ChangedBy, hopens.changes]
  use hle
  intro hmine
  have hbefore := hview hmine
  by_cases hname : other = filename
  · subst hname
    rcases hopens.opened with hsame | ⟨hnone, file, hsome⟩
    · rwa [hsame]
    · rw [hsome]
      rw [hnone] at hbefore
      apply hempty hbefore
  · rwa [hopens.view other hname]

/-- The number of the incomplete file, and its size. -/
def HasSize (file : ℕ) (size : ℤ) (view : Option (ℕ × List Chunk)) : Prop :=
  ∃ content, view = some (file, content) ∧ (fileSize content : ℤ) = size

/-! ### What is kept -/

/-- No file has two names, the incomplete files have been received in order, and it is known of the
pending uploads how long their files have been. -/
structure Intact (s : UploadStore Thread) : Prop where
  injective : ∀ {p q file}, s.folder p = some file → s.folder q = some file → p = q
  below : ∀ {p file}, s.folder p = some file → file < s.nextFile
  chained : ∀ {filename file}, s.folder (uploadPath filename) = some file →
    Chained filename (s.files file)
  pending : ∀ {id upload}, s.pendingUploads id = some upload →
    s.Knows (fun _ => False) upload.filename upload.changes
      (HasSize upload.File upload.AlreadyUploadedBytes)
  renamed : ∀ r ∈ s.renamed, r.Complete

/-- What a handler knows: it knows its file before it renames it, when it has written a number of
bytes, and it knows that it has closed it. -/
structure HandlerKnows (s : UploadStore Thread) (i : Thread) (h : UploadHandler Thread) (n : ℤ) :
    Prop where
  file : h.phase.hasRenamed = false →
    s.Knows (fun j => j = i) h.upload.filename h.upload.changes (HasSize h.upload.File n)
  closed : h.phase.hasClosed = true → s.closed h.uploadId = true

/-- What a thread knows. -/
def ThreadKnows (s : UploadStore Thread) (i : Thread) : UploadThread Thread → Prop
  | .idle => ∀ filename, i ∉ s.changes filename
  | .opening _ _ => True
  | .sized filename _ already changes =>
      s.Knows (fun _ => False) filename changes fun view =>
        view = none ∧ already = 0 ∨ ∃ file, HasSize file already view
  | .returned => True
  | .channel h => s.HandlerKnows i h.toUploadHandler (h.totalBytesWritten + (h.uncounted.getD 0 : ℕ))
  | .http h => s.HandlerKnows i h h.totalBytesWritten

/-- A step of a thread leaves the store intact, and all threads know what they are to know. -/
structure Keeps (i : Thread) (s s' : UploadStore Thread) (l' : UploadThread Thread) : Prop where
  intact : s'.Intact
  self : s'.ThreadKnows i l'
  others : ∀ j l, j ≠ i → s.ThreadKnows j l → s'.ThreadKnows j l

variable {l l' : UploadThread Thread} {h : UploadHandler Thread} {n : ℤ}

theorem HandlerKnows.changed (hknows : s.HandlerKnows j h n) (hchanges : s.Changes s' i filename)
    (hj : j ≠ i) :
  s'.HandlerKnows j h n
  := by
  constructor
  · intro hphase
    apply (hknows.file hphase).changed hchanges
    exact fun hi => hj hi.symm
  · rw [hchanges.closed]
    apply hknows.closed

theorem ThreadKnows.changed (hknows : s.ThreadKnows j l) (hchanges : s.Changes s' i filename)
    (hj : j ≠ i) :
  s'.ThreadKnows j l
  := by
  cases l with
  | idle =>
      intro other
      rw [hchanges.changes]
      by_cases hname : other = filename
      · subst hname
        rw [Function.update_self, List.mem_append, List.mem_singleton]
        exact not_or.mpr ⟨hknows other, hj⟩
      · rw [Function.update_of_ne hname]
        apply hknows other
  | opening _ _ => trivial
  | sized _ _ _ _ =>
      rw [ThreadKnows] at hknows ⊢
      apply hknows.changed hchanges
      exact fun h => h
  | returned => trivial
  | channel h => apply HandlerKnows.changed hknows hchanges hj
  | http h => apply HandlerKnows.changed hknows hchanges hj

theorem not_hasSize_none {file : ℕ} {size : ℤ} :
  ¬ HasSize file size none
  := by
  rintro ⟨content, h, -⟩
  cases h

theorem HandlerKnows.opened (hknows : s.HandlerKnows j h n) (hopens : s.Opens s' filename) :
  s'.HandlerKnows j h n
  := by
  constructor
  · intro hphase
    apply (hknows.file hphase).opened hopens
    exact fun hnone => absurd hnone not_hasSize_none
  · rw [hopens.closed]
    apply hknows.closed

theorem ThreadKnows.opened (hknows : s.ThreadKnows j l) (hopens : s.Opens s' filename) :
  s'.ThreadKnows j l
  := by
  cases l with
  | idle =>
      intro other
      rw [hopens.changes]
      apply hknows other
  | opening _ _ => trivial
  | sized _ _ _ _ =>
      rw [ThreadKnows] at hknows ⊢
      apply hknows.opened hopens
      rintro (⟨-, rfl⟩ | ⟨file, hsize⟩) file'
      · right
        use file', []
        exact ⟨rfl, rfl⟩
      · exact absurd hsize not_hasSize_none
  | returned => trivial
  | channel h => apply HandlerKnows.opened hknows hopens
  | http h => apply HandlerKnows.opened hknows hopens

/-- Files that are closed do not matter to what is known. -/
theorem ThreadKnows.closed [DecidableEq Thread] (hknows : s.ThreadKnows j l) (id : Thread) :
  ({ s with closed := Function.update s.closed id true } : UploadStore Thread).ThreadKnows j l
  := by
  have hhandler : ∀ h n, s.HandlerKnows j h n →
      ({ s with closed := Function.update s.closed id true } : UploadStore Thread).HandlerKnows
        j h n := by
    intro h n hknows
    use hknows.file
    intro hphase
    dsimp only
    by_cases hid : h.uploadId = id
    · rw [hid, Function.update_self]
    · rw [Function.update_of_ne hid]
      apply hknows.closed hphase
  cases l with
  | idle => apply hknows
  | opening _ _ => trivial
  | sized _ _ _ _ => apply hknows
  | returned => trivial
  | channel h => apply hhandler _ _ hknows
  | http h => apply hhandler _ _ hknows

/-! ### What the operations keep -/

/-- What is known while fewer threads may have changed the file is known while more may have, if
these have not. -/
theorem Knows.mono {more : Thread → Prop} (h : s.Knows mine other changes P)
    (hmine : ∀ j ∈ s.changes other, more j → mine j) :
  s.Knows more other changes P
  := by
  use h.1
  intro hmore
  apply h.2
  intro j hj
  exact hmine j (List.mem_of_mem_drop hj) (hmore j hj)

theorem fileSize_concat (content : List Chunk) (chunk : Chunk) :
  fileSize (content ++ [chunk]) = fileSize content + chunk.data.length
  := by
  simp [fileSize]

theorem view_eq_some {file : ℕ} {content : List Chunk} :
  s.view filename = some (file, content) ↔
    s.folder (uploadPath filename) = some file ∧ s.files file = content
  := by
  rw [view, Option.map_eq_some_iff]
  constructor
  · rintro ⟨file', hfolder, heq⟩
    obtain ⟨rfl, rfl⟩ := Prod.mk.inj heq
    exact ⟨hfolder, rfl⟩
  · rintro ⟨hfolder, rfl⟩
    use file

/-- A store with the same files and pending uploads is intact as well. -/
theorem Intact.pending_changed (hintact : s.Intact) (hchanges : s.Changes s' i filename)
    (hpending : s'.pendingUploads = s.pendingUploads) :
  ∀ {id upload}, s'.pendingUploads id = some upload →
    s'.Knows (fun _ => False) upload.filename upload.changes
      (HasSize upload.File upload.AlreadyUploadedBytes)
  := by
  intro id upload hupload
  rw [hpending] at hupload
  apply (hintact.pending hupload).changed hchanges
  exact fun h => h

/-- Bytes that are written are appended to the incomplete file. -/
theorem write_of_view {data : List UInt8} {content : List Chunk} (hintact : s.Intact)
    (hdata : data ≠ []) (hview : s.view h.upload.filename = some (h.upload.File, content)) :
  s.Changes (s.write i h data) i h.upload.filename ∧
    (s.write i h data).view h.upload.filename =
      some (h.upload.File, content ++ [⟨h.upload.filename, h.totalBytesWritten, data⟩])
  := by
  obtain ⟨hfolder, rfl⟩ := view_eq_some.mp hview
  rw [write, if_neg hdata]
  constructor
  · constructor
    · rfl
    · intro other hother
      rw [view, view]
      apply Option.map_congr
      intro file hfile
      dsimp only
      rw [Function.update_of_ne]
      rintro rfl
      exact hother (uploadPath_injective (hintact.injective hfile hfolder))
    · rfl
  · apply view_eq_some.mpr
    use hfolder
    apply Function.update_self

/-- A handler that is alone writes where the file ends. -/
theorem Intact.write {data : List UInt8} (hintact : s.Intact)
    (hknows : s.Knows (fun j => j = i) h.upload.filename h.upload.changes
      (HasSize h.upload.File h.totalBytesWritten))
    (halone : s.Alone i h.upload) (hdata : data ≠ []) :
  (s.write i h data).Intact ∧ s.Changes (s.write i h data) i h.upload.filename ∧
    (s.write i h data).Knows (fun j => j = i) h.upload.filename h.upload.changes
      (HasSize h.upload.File (h.totalBytesWritten + data.length))
  := by
  obtain ⟨content, hview, hsize⟩ := hknows.2 halone
  obtain ⟨hchanges, hview'⟩ := write_of_view (i := i) hintact hdata hview
  obtain ⟨hfolder, hcontent⟩ := view_eq_some.mp hview
  have hwrite : (s.write i h data).folder = s.folder ∧
      (s.write i h data).nextFile = s.nextFile ∧
      (s.write i h data).pendingUploads = s.pendingUploads ∧
      (s.write i h data).renamed = s.renamed := by
    rw [UploadStore.write, if_neg hdata]
    exact ⟨rfl, rfl, rfl, rfl⟩
  obtain ⟨hfolder', hnext, hpending, hrenamed⟩ := hwrite
  refine ⟨?_, hchanges, ?_⟩
  · constructor
    · intro p q file
      rw [hfolder']
      apply hintact.injective
    · intro p file
      rw [hfolder', hnext]
      apply hintact.below
    · intro filename file hfile
      by_cases hname : filename = h.upload.filename
      · subst hname
        obtain ⟨hfile', hcontent'⟩ := view_eq_some.mp hview'
        obtain rfl := Option.some.inj (hfile.symm.trans hfile')
        rw [hcontent', Chained, permitted_snoc]
        constructor
        · rw [← hcontent]
          apply hintact.chained hfolder
        · exact ⟨rfl, hsize.symm⟩
      · have hsame := hchanges.view filename hname
        have hbefore : s.folder (uploadPath filename) = some file := by rwa [← hfolder']
        rw [view_eq_some.mpr ⟨hbefore, rfl⟩] at hsame
        rw [(view_eq_some.mp hsame).2]
        apply hintact.chained hbefore
    · exact hintact.pending_changed hchanges hpending
    · rw [hrenamed]
      apply hintact.renamed
  · constructor
    · rw [hchanges.changes, Function.update_self, List.length_append]
      apply Nat.le_add_right_of_le hknows.1
    · intro _
      use content ++ [⟨h.upload.filename, h.totalBytesWritten, data⟩], hview'
      rw [fileSize_concat]
      push_cast
      rw [hsize]

/-- A handler that is alone, and has counted what it has written, gives its final name to a file
of the declared size. -/
theorem Intact.rename (hintact : s.Intact)
    (hknows : s.Knows (fun j => j = i) h.upload.filename h.upload.changes
      (HasSize h.upload.File h.upload.Size))
    (halone : (s.folder (uploadPath h.upload.filename)).isSome →
      s.Alone i h.upload ∧ ¬ ".incomplete".toList <:+ h.upload.filename.toList) :
  (s.rename i h.upload).Intact ∧
    (s.rename i h.upload = s ∨ s.Changes (s.rename i h.upload) i h.upload.filename)
  := by
  rw [UploadStore.rename]
  cases hfolder : s.folder (uploadPath h.upload.filename) with
  | none => exact ⟨hintact, Or.inl rfl⟩
  | some file =>
      rw [hfolder] at halone
      obtain ⟨halone, hname⟩ := halone rfl
      have hfinal := filePath_ne_uploadPath hname
      obtain ⟨content, hview, hsize⟩ := hknows.2 halone
      obtain ⟨hfile, rfl⟩ := view_eq_some.mp hview
      obtain rfl := Option.some.inj (hfolder.symm.trans hfile)
      have hincomplete : ∀ other ≠ h.upload.filename,
          Function.update (Function.update s.folder (uploadPath h.upload.filename) none)
            (filePath h.upload.filename) (some h.upload.File) (uploadPath other) =
              s.folder (uploadPath other) := by
        intro other hother
        rw [Function.update_of_ne (hfinal other).symm,
          Function.update_of_ne (fun heq => hother (uploadPath_injective heq))]
      have hchanges : s.Changes
          { s with
            folder := Function.update
              (Function.update s.folder (uploadPath h.upload.filename) none)
              (filePath h.upload.filename) (some h.upload.File)
            changes := Function.update s.changes h.upload.filename
              (s.changes h.upload.filename ++ [i])
            renamed := s.renamed ++
              [⟨h.upload.filename, h.upload.Size, s.files h.upload.File⟩] }
          i h.upload.filename := by
        constructor
        · rfl
        · intro other hother
          rw [view, view]
          dsimp only
          rw [hincomplete other hother]
        · rfl
      refine ⟨?_, Or.inr hchanges⟩
      constructor
      · apply eq_of_update_some
        · intro p q file hp hq
          apply hintact.injective (of_update_none hp).1 (of_update_none hq).1
        · intro p hp
          obtain ⟨hp, hup⟩ := of_update_none hp
          exact hup (hintact.injective hp hfolder)
      · apply forall_update_some
        · intro p file hp
          apply hintact.below (of_update_none hp).1
        · apply hintact.below hfolder
      · intro filename file hp
        dsimp only at hp
        rw [Function.update_of_ne (hfinal filename).symm] at hp
        apply hintact.chained (of_update_none hp).1
      · exact hintact.pending_changed hchanges rfl
      · intro r hr
        rcases List.mem_append.mp hr with hr | hr
        · apply hintact.renamed r hr
        · rw [List.mem_singleton.mp hr]
          exact ⟨hsize, hintact.chained hfolder⟩

/-- A step that changes no file and closes none keeps what is known. -/
theorem Keeps.of_same (hintact : s.Intact) (hself : s.ThreadKnows i l') :
  Keeps i s s l'
  := ⟨hintact, hself, fun _ _ _ h => h⟩

/-- Closing `uploadComplete` matters to no file, whether it panics or not. -/
theorem Keeps.closeComplete {h : ChannelHandler Thread} (hkeeps : Keeps i s s' (.channel h)) :
  Keeps i s (UploadThread.closeComplete s' h).1 (UploadThread.closeComplete s' h).2
  := by
  rw [UploadThread.closeComplete]
  split
  · constructor
    · exact { hkeeps.intact with }
    · exact { hkeeps.self with }
    · intro j l hj hl
      have hother := hkeeps.others j l hj hl
      cases l with
      | idle => apply hother
      | opening _ _ => trivial
      | sized _ _ _ _ => apply hother
      | returned => trivial
      | channel h => exact { hother with }
      | http h => exact { hother with }
  · exact ⟨hkeeps.intact, { hkeeps.self with }, hkeeps.others⟩

/-- A handler that is alone whenever it writes bytes knows its file afterwards, and so do the other
threads. -/
theorem keeps_write {data : List UInt8} (hintact : s.Intact)
    (hknows : s.Knows (fun j => j = i) h.upload.filename h.upload.changes
      (HasSize h.upload.File h.totalBytesWritten))
    (halone : data ≠ [] → s.Alone i h.upload) :
  (s.write i h data).Intact ∧
    (s.write i h data).Knows (fun j => j = i) h.upload.filename h.upload.changes
      (HasSize h.upload.File (h.totalBytesWritten + data.length)) ∧
    ∀ j l, j ≠ i → s.ThreadKnows j l → (s.write i h data).ThreadKnows j l
  := by
  by_cases hdata : data = []
  · subst hdata
    rw [UploadStore.write, if_pos rfl, List.length_nil, Int.natCast_zero, Int.add_zero]
    exact ⟨hintact, hknows, fun _ _ _ h => h⟩
  · obtain ⟨hintact', hchanges, hknows'⟩ := hintact.write hknows (halone hdata) hdata
    exact ⟨hintact', hknows', fun _ _ hj hl => hl.changed hchanges hj⟩

theorem keeps_onMessage {h : ChannelHandler Thread} {data : List UInt8} (hintact : s.Intact)
    (hknows : s.ThreadKnows i (.channel h)) (huncounted : h.uncounted = none)
    (halone : s.WritesAlone i h.toUploadHandler data) :
  Keeps i s (UploadThread.onMessage s i h data).1 (UploadThread.onMessage s i h data).2
  := by
  rw [UploadThread.onMessage]
  split
  · apply Keeps.closeComplete
    apply Keeps.of_same hintact hknows
  · rename_i hopen
    rw [ThreadKnows] at hknows
    have hphase : h.phase.hasClosed = false := by
      apply Bool.eq_false_iff.mpr
      exact fun hphase => hopen (HandlerKnows.closed hknows hphase)
    have hnot : h.phase.hasRenamed = false := by
      cases hcase : h.phase with
      | receiving => rfl
      | leaving => rfl
      | closed => rfl
      | renamed =>
          rw [hcase] at hphase
          cases hphase
      | deleted =>
          rw [hcase] at hphase
          cases hphase
    have hfile := hknows.file hnot
    rw [huncounted, Option.getD_none, Int.natCast_zero, Int.add_zero] at hfile
    obtain ⟨hintact', hknows', hothers⟩ := keeps_write hintact hfile fun hdata =>
      halone hdata (Bool.eq_false_iff.mpr hopen)
    refine ⟨hintact', ⟨fun _ => hknows', ?_⟩, hothers⟩
    intro hclosed
    rw [hphase] at hclosed
    cases hclosed

theorem keeps_onWritten {h : ChannelHandler Thread} {n : ℕ} (hintact : s.Intact)
    (hknows : s.ThreadKnows i (.channel h)) (huncounted : h.uncounted = some n) :
  Keeps i s (UploadThread.onWritten s h n).1 (UploadThread.onWritten s h n).2
  := by
  have hkeeps : Keeps i s s
      (.channel { h with totalBytesWritten := h.totalBytesWritten + n, uncounted := none }) := by
    apply Keeps.of_same hintact
    rw [ThreadKnows, huncounted] at hknows
    use fun hphase => by simpa using hknows.file hphase
    exact hknows.closed
  rw [UploadThread.onWritten]
  dsimp only
  split
  · apply hkeeps.closeComplete
  · apply hkeeps

theorem keeps_onRead {data : List UInt8} (eof : Bool) (hintact : s.Intact)
    (hknows : s.ThreadKnows i (.http h)) (hphase : h.phase = .receiving)
    (halone : s.WritesAlone i h data) :
  Keeps i s (UploadThread.onRead s i h data eof).1 (UploadThread.onRead s i h data eof).2
  := by
  rw [ThreadKnows] at hknows
  have hfile := hknows.file (by rw [hphase]; rfl)
  rw [UploadThread.onRead]
  split
  · apply Keeps.of_same hintact
    constructor
    · exact fun _ => hfile
    · intro hclosed
      cases hclosed
  · rename_i hnot
    obtain ⟨hintact', hknows', hothers⟩ := keeps_write hintact hfile fun hdata =>
      halone hdata (Bool.eq_false_iff.mpr fun hclosed => hnot ⟨hdata, hclosed⟩)
    refine ⟨hintact', ⟨fun _ => hknows', ?_⟩, hothers⟩
    intro hclosed
    cases eof with
    | false => cases hclosed
    | true => cases hclosed

section Operations

variable [DecidableEq Thread] {size already : ℤ}

/-- The file that is opened is the one whose size has been read, or is as empty. -/
theorem Intact.openFile (hintact : s.Intact)
    (hknows : s.Knows (fun _ => False) filename changes fun view =>
      view = none ∧ already = 0 ∨ ∃ file, HasSize file already view) :
  (s.openFile i filename size already changes).Intact ∧
    s.Opens (s.openFile i filename size already changes) filename
  := by
  rw [UploadStore.openFile]
  cases hfolder : s.folder (uploadPath filename) with
  | some file =>
      dsimp only
      constructor
      · refine { hintact with pending := ?_ }
        intro id upload hupload
        dsimp only at hupload
        by_cases hid : id = i
        · rw [hid, Function.update_self] at hupload
          obtain rfl := Option.some.inj hupload
          use hknows.1
          intro hmine
          have hview : s.view filename = some (file, s.files file) := view_eq_some.mpr ⟨hfolder, rfl⟩
          rcases hknows.2 hmine with ⟨hnone, -⟩ | ⟨file', content, hview', hsize⟩
          · rw [hview] at hnone
            cases hnone
          · obtain ⟨rfl, rfl⟩ := Prod.mk.inj (Option.some.inj (hview.symm.trans hview'))
            use s.files file, hview, hsize
        · rw [Function.update_of_ne hid] at hupload
          apply hintact.pending hupload
      · constructor
        · rfl
        · exact fun _ _ => rfl
        · exact Or.inl rfl
        · rfl
  | none =>
      dsimp only
      have hopens : s.Opens
          { s with
            files := Function.update s.files s.nextFile []
            nextFile := s.nextFile + 1
            folder := Function.update s.folder (uploadPath filename) (some s.nextFile)
            pendingUploads := Function.update s.pendingUploads i
              (some ⟨filename, s.nextFile, size, already, changes⟩) } filename := by
        constructor
        · rfl
        · intro other hother
          rw [view, view]
          dsimp only
          rw [Function.update_of_ne fun heq => hother (uploadPath_injective heq)]
          apply Option.map_congr
          intro file hfile
          rw [Function.update_of_ne (Nat.ne_of_lt (hintact.below hfile))]
        · right
          constructor
          · rw [view, hfolder, Option.map_none]
          · use s.nextFile
            apply view_eq_some.mpr
            constructor
            · apply Function.update_self
            · apply Function.update_self
        · rfl
      refine ⟨?_, hopens⟩
      constructor
      · apply eq_of_update_some hintact.injective
        intro p hp
        exact Nat.lt_irrefl _ (hintact.below hp)
      · apply forall_update_some
        · intro p file hp
          apply Nat.lt_succ_of_lt (hintact.below hp)
        · apply Nat.lt_succ_self
      · intro other file hp
        dsimp only at hp ⊢
        by_cases hother : other = filename
        · rw [hother, Function.update_self] at hp
          rw [← Option.some.inj hp, Function.update_self]
          apply permitted_nil
        · rw [Function.update_of_ne fun heq => hother (uploadPath_injective heq)] at hp
          rw [Function.update_of_ne (Nat.ne_of_lt (hintact.below hp))]
          apply hintact.chained hp
      · intro id upload hupload
        dsimp only at hupload
        by_cases hid : id = i
        · rw [hid, Function.update_self] at hupload
          obtain rfl := Option.some.inj hupload
          use hknows.1
          intro hmine
          have hview : s.view filename = none := by rw [view, hfolder, Option.map_none]
          rcases hknows.2 hmine with ⟨-, rfl⟩ | ⟨file, content, hview', -⟩
          · use []
            constructor
            · apply view_eq_some.mpr
              exact ⟨Function.update_self .., Function.update_self ..⟩
            · rfl
          · rw [hview] at hview'
            cases hview'
        · rw [Function.update_of_ne hid] at hupload
          apply (hintact.pending hupload).opened hopens
          exact fun hnone => absurd hnone not_hasSize_none
      · apply hintact.renamed

theorem keeps_leave {phase : UploadEnd} (uncounted : Option ℕ) (hintact : s.Intact)
    (hknows : s.HandlerKnows i h (h.totalBytesWritten + (uncounted.getD 0 : ℕ)))
    (halone : s.RenamesAlone i h uncounted) (hleave : s.leave i h = some (s', phase)) :
  s'.Intact ∧
    s'.HandlerKnows i { h with phase := phase }
      (h.totalBytesWritten + (uncounted.getD 0 : ℕ)) ∧
    ∀ j l, j ≠ i → s.ThreadKnows j l → s'.ThreadKnows j l
  := by
  rw [leave] at hleave
  cases hphase : h.phase with
  | receiving =>
      rw [hphase] at hleave
      cases hleave
  | leaving =>
      rw [hphase] at hleave
      obtain ⟨rfl, rfl⟩ := Prod.mk.inj (Option.some.inj hleave)
      refine ⟨{ hintact with }, ⟨?_, ?_⟩, fun j l _ hl => hl.closed _⟩
      · intro _
        apply hknows.file
        rw [hphase]
        rfl
      · intro _
        apply Function.update_self
  | closed =>
      rw [hphase] at hleave
      obtain ⟨rfl, rfl⟩ := Prod.mk.inj (Option.some.inj hleave)
      have hclosed := hknows.closed (by rw [hphase]; rfl)
      split
      · rename_i hsize
        have hfile := hknows.file (by rw [hphase]; rfl)
        by_cases hfolder : (s.folder (uploadPath h.upload.filename)).isSome
        · obtain ⟨hmine, huncounted, hname⟩ := halone hphase hsize hfolder
          rw [huncounted, hsize, Int.natCast_zero, Int.add_zero] at hfile
          obtain ⟨hintact', hsame | hchanges⟩ := hintact.rename hfile fun _ => ⟨hmine, hname⟩
          · rw [hsame]
            refine ⟨hintact, ⟨?_, fun _ => hclosed⟩, fun _ _ _ hl => hl⟩
            intro hnot
            cases hnot
          · refine ⟨hintact', ⟨?_, ?_⟩, fun _ _ hj hl => hl.changed hchanges hj⟩
            · intro hnot
              cases hnot
            · intro _
              rw [hchanges.closed]
              apply hclosed
        · have hsame : s.rename i h.upload = s := by
            rw [UploadStore.rename, Option.not_isSome_iff_eq_none.mp hfolder]
          rw [hsame]
          refine ⟨hintact, ⟨?_, fun _ => hclosed⟩, fun _ _ _ hl => hl⟩
          intro hnot
          cases hnot
      · refine ⟨hintact, ⟨?_, fun _ => hclosed⟩, fun _ _ _ hl => hl⟩
        intro hnot
        cases hnot
  | renamed =>
      rw [hphase] at hleave
      obtain ⟨rfl, rfl⟩ := Prod.mk.inj (Option.some.inj hleave)
      refine ⟨{ hintact with pending := ?_ }, ⟨?_, ?_⟩, ?_⟩
      · intro id upload hupload
        apply hintact.pending (of_update_none hupload).1
      · intro hnot
        cases hnot
      · intro _
        exact hknows.closed (by rw [hphase]; rfl)
      · intro j l _ hl
        cases l with
        | idle => apply hl
        | opening _ _ => trivial
        | sized _ _ _ _ => apply hl
        | returned => trivial
        | channel h => exact { hl with }
        | http h => exact { hl with }
  | deleted =>
      rw [hphase] at hleave
      cases hleave

omit [DecidableEq Thread] in
/-- A handler that starts knows its file, because its thread has not changed any yet. -/
theorem handlerKnows_handler {uploadId : Thread} {upload : PendingUpload} (hintact : s.Intact)
    (hidle : ∀ filename, i ∉ s.changes filename)
    (hupload : s.pendingUploads uploadId = some upload) :
  s.HandlerKnows i (UploadThread.handler uploadId upload) upload.AlreadyUploadedBytes
  := by
  constructor
  · intro _
    apply (hintact.pending hupload).mono
    rintro j hj rfl
    exact hidle _ hj
  · intro hclosed
    cases hclosed

omit [DecidableEq Thread] in
/-- What a call has read is the size of the file. -/
theorem knows_sized (s : UploadStore Thread) (filename : String) :
  s.Knows (fun _ => False) filename (s.changes filename).length fun view =>
    view = none ∧ s.alreadyUploadedBytes filename = 0 ∨
      ∃ file, HasSize file (s.alreadyUploadedBytes filename) view
  := by
  use Nat.le_refl _
  intro _
  rw [view, alreadyUploadedBytes]
  cases s.folder (uploadPath filename) with
  | none => exact Or.inl ⟨rfl, rfl⟩
  | some file => exact Or.inr ⟨file, s.files file, rfl, rfl⟩

/-- A step in which no handler changes a file that others have changed keeps what is known. -/
theorem keeps_exec {event : UploadEvent Thread} (hintact : s.Intact) (hknows : s.ThreadKnows i l)
    (halone : ChangesAlone s i l event)
    (hexec : UploadThread.exec i event s l = some (s', l')) :
  Keeps i s s' l'
  := by
  unfold UploadThread.exec at hexec
  replace hexec := (Option.ite_none_left_eq_some.mp hexec).2
  split at hexec
  · split at hexec
    · obtain ⟨rfl, rfl⟩ := Prod.mk.inj (Option.some.inj hexec)
      exact Keeps.of_same hintact trivial
    · split at hexec
      · obtain ⟨rfl, rfl⟩ := Prod.mk.inj (Option.some.inj hexec)
        exact Keeps.of_same hintact trivial
      · obtain ⟨rfl, rfl⟩ := Prod.mk.inj (Option.some.inj hexec)
        exact Keeps.of_same hintact trivial
  · obtain ⟨rfl, rfl⟩ := Prod.mk.inj (Option.some.inj hexec)
    apply Keeps.of_same hintact
    apply knows_sized
  · obtain ⟨rfl, rfl⟩ := Prod.mk.inj (Option.some.inj hexec)
    obtain ⟨hintact', hopens⟩ := hintact.openFile hknows
    exact ⟨hintact', trivial, fun _ _ _ hl => hl.opened hopens⟩
  · split at hexec
    · obtain ⟨rfl, rfl⟩ := Prod.mk.inj (Option.some.inj hexec)
      exact Keeps.of_same hintact trivial
    · rename_i hupload
      obtain ⟨rfl, rfl⟩ := Prod.mk.inj (Option.some.inj hexec)
      apply Keeps.of_same hintact
      rw [ThreadKnows, Option.getD_none, Int.natCast_zero, Int.add_zero]
      apply handlerKnows_handler hintact hknows hupload
  · split at hexec
    · obtain ⟨rfl, rfl⟩ := Prod.mk.inj (Option.some.inj hexec)
      exact Keeps.of_same hintact trivial
    · rename_i hupload
      obtain ⟨rfl, rfl⟩ := Prod.mk.inj (Option.some.inj hexec)
      apply Keeps.of_same hintact
      apply handlerKnows_handler hintact hknows hupload
  · rename_i h data
    obtain ⟨huncounted, hmessage⟩ := Option.ite_none_right_eq_some.mp hexec
    obtain ⟨rfl, rfl⟩ := Prod.mk.inj (Option.some.inj hmessage)
    exact keeps_onMessage hintact hknows huncounted ((halone _ rfl).1 data rfl)
  · rename_i h
    obtain ⟨n, huncounted, hwritten⟩ := Option.map_eq_some_iff.mp hexec
    obtain ⟨rfl, rfl⟩ := Prod.mk.inj hwritten
    exact keeps_onWritten hintact hknows huncounted
  · rename_i h
    split at hexec
    · rename_i hphase
      obtain ⟨-, hnext⟩ := Option.ite_none_right_eq_some.mp hexec
      obtain ⟨rfl, rfl⟩ := Prod.mk.inj (Option.some.inj hnext)
      apply Keeps.of_same hintact
      rw [ThreadKnows] at hknows ⊢
      constructor
      · intro _
        apply hknows.file
        rw [hphase]
        rfl
      · intro hclosed
        cases hclosed
    · obtain ⟨⟨s'', phase⟩, hleave, hleft⟩ := Option.map_eq_some_iff.mp hexec
      obtain ⟨rfl, rfl⟩ := Prod.mk.inj hleft
      obtain ⟨hintact', hself, hothers⟩ := keeps_leave h.uncounted hintact hknows
        ((halone _ rfl).2 rfl) hleave
      exact ⟨hintact', { hself with }, hothers⟩
  · rename_i h data eof
    obtain ⟨hphase, hread⟩ := Option.ite_none_right_eq_some.mp hexec
    obtain ⟨rfl, rfl⟩ := Prod.mk.inj (Option.some.inj hread)
    exact keeps_onRead eof hintact hknows hphase ((halone _ rfl).1 data rfl)
  · rename_i h
    obtain ⟨hphase, hread⟩ := Option.ite_none_right_eq_some.mp hexec
    obtain ⟨rfl, rfl⟩ := Prod.mk.inj (Option.some.inj hread)
    apply Keeps.of_same hintact
    rw [ThreadKnows] at hknows ⊢
    constructor
    · intro _
      apply hknows.file
      rw [hphase]
      rfl
    · intro hclosed
      cases hclosed
  · rename_i h
    obtain ⟨⟨s'', phase⟩, hleave, hleft⟩ := Option.map_eq_some_iff.mp hexec
    obtain ⟨rfl, rfl⟩ := Prod.mk.inj hleft
    have hhandler : s.HandlerKnows i h (h.totalBytesWritten + ((none : Option ℕ).getD 0 : ℕ)) := by
      simpa [ThreadKnows] using hknows
    obtain ⟨hintact', hself, hothers⟩ := keeps_leave none hintact hhandler ((halone _ rfl).2 rfl)
      hleave
    refine ⟨hintact', ?_, hothers⟩
    rw [ThreadKnows]
    simpa using hself
  · cases hexec

end Operations

/-! ### Runs -/

/-- No upload is pending. There may be incomplete files, each received in order. -/
structure Fresh (s : UploadStore Thread) : Prop where
  injective : ∀ {p q file}, s.folder p = some file → s.folder q = some file → p = q
  below : ∀ {p file}, s.folder p = some file → file < s.nextFile
  chained : ∀ {filename file}, s.folder (uploadPath filename) = some file →
    Chained filename (s.files file)
  pendingUploads : ∀ id, s.pendingUploads id = none
  changes : ∀ filename, s.changes filename = []
  renamed : s.renamed = []

theorem Fresh.intact (h : s.Fresh) :
  s.Intact
  := by
  constructor
  · exact h.injective
  · exact h.below
  · exact h.chained
  · intro id upload hupload
    rw [h.pendingUploads] at hupload
    cases hupload
  · intro r hr
    rw [h.renamed] at hr
    cases hr

/-- What is known in a whole run. -/
def AllKnow (c : Pool (UploadStore Thread) (UploadThread Thread) Thread) : Prop :=
  c.shared.Intact ∧ ∀ i, c.shared.ThreadKnows i (c.threads i)

variable [DecidableEq Thread] {c c' : Pool (UploadStore Thread) (UploadThread Thread) Thread}
  {tr : List (Lts.Transition (Pool (UploadStore Thread) (UploadThread Thread) Thread)
    (Thread × UploadEvent Thread))}

theorem AllKnow.step {a : Thread × UploadEvent Thread} (h : AllKnow c)
    (halone : ChangesAlone c.shared a.1 (c.threads a.1) a.2)
    (step : (Pool.lts UploadThread.exec).step c a c') :
  AllKnow c'
  := by
  obtain ⟨hintact, hknows⟩ := h
  obtain ⟨s', l', hexec, rfl⟩ := Pool.lts_step.mp step
  have hkeeps := keeps_exec hintact (hknows a.1) halone hexec
  use hkeeps.intact
  intro j
  dsimp only
  by_cases hj : j = a.1
  · subst hj
    rw [Function.update_self]
    apply hkeeps.self
  · rw [Function.update_of_ne hj]
    apply hkeeps.others j _ hj (hknows j)

/-- When every handler that changes an incomplete file is the only one to have changed it since its
size was read, only complete uploads get their final name. -/
theorem renamed_complete (hfresh : c.shared.Fresh) (hidle : ∀ i, c.threads i = .idle)
    (run : (Pool.lts UploadThread.exec).Run c tr c')
    (halone : ∀ e ∈ tr, ChangesAlone e.before.shared e.action.1 (e.before.threads e.action.1)
      e.action.2) :
  ∀ r ∈ c'.shared.renamed, r.Complete
  := by
  have hinit : AllKnow c := by
    use hfresh.intact
    intro i
    rw [hidle]
    intro filename
    rw [hfresh.changes]
    apply List.not_mem_nil
  have hknow : AllKnow c' := run.invariant hinit fun e he h step => h.step (halone e he) step
  apply hknow.1.renamed

end UploadStore

/-! ### Uploads of one file -/

/-- The folder is empty. -/
def emptyUploadStore : UploadStore (Fin 4) where
  files _ := []
  nextFile := 0
  folder _ := none
  pendingUploads _ := none
  closed _ := false
  panicked := false
  changes _ := []
  renamed := []

def emptyUploads : Pool (UploadStore (Fin 4)) (UploadThread (Fin 4)) (Fin 4) where
  shared := emptyUploadStore
  threads _ := .idle

theorem emptyUploadStore_fresh :
  emptyUploadStore.Fresh
  := by
  constructor
  · intro p q file hp
    cases hp
  · intro p file hp
    cases hp
  · intro filename file hp
    cases hp
  · exact fun _ => rfl
  · exact fun _ => rfl
  · rfl

/-- Three bytes are received in two messages. -/
theorem renamed_complete_two_messages :
  ∃ tr c, (Pool.lts UploadThread.exec).Run emptyUploads tr c ∧
    (c.shared.renamed.map fun r => r.filename) = ["a.iso"] ∧ ∀ r ∈ c.shared.renamed, r.Complete
  := by
  obtain ⟨tr, c, run, -, halone, hrenamed⟩ := Lts.exists_run_of_restrict
    (Pool.advance UploadThread.exec)
    (fun c a => ChangesAlone c.shared a.1 (c.threads a.1) a.2) emptyUploads
    [(0, .rpcStartStorageFileUpload "a.iso" 3), (0, .next), (0, .next),
      (1, .handleUploadChannel 0), (1, .message [1, 2]), (1, .count), (1, .message [3]),
      (1, .count), (1, .next), (1, .next), (1, .next), (1, .next)]
    (fun c => c.shared.renamed.map fun r => r.filename)
    (by decide +kernel : _ = some ["a.iso"])
  exact ⟨tr, c, run, hrenamed,
    UploadStore.renamed_complete emptyUploadStore_fresh (fun _ => rfl) run halone⟩

/-- Two uploads of a file have both begun while it was empty. The second counts only its own
bytes. -/
theorem two_uploads_renamed_incomplete :
  ¬ ∀ (c c' : Pool (UploadStore (Fin 4)) (UploadThread (Fin 4)) (Fin 4)) tr,
    c.shared.Fresh → (∀ i, c.threads i = .idle) → (Pool.lts UploadThread.exec).Run c tr c' →
      ∀ r ∈ c'.shared.renamed, r.Complete
  := by
  intro claim
  obtain ⟨tr, c, run, -, hrenamed⟩ := Lts.exists_run_of_observe
    (Pool.advance UploadThread.exec) emptyUploads
    [(0, .rpcStartStorageFileUpload "a.iso" 2), (0, .next), (0, .next),
      (1, .rpcStartStorageFileUpload "a.iso" 2), (1, .next), (1, .next),
      (2, .handleUploadHttp 0), (3, .handleUploadHttp 1), (2, .read [1] false),
      (3, .read [2, 3] true), (3, .next), (3, .next)]
    (fun c => c.shared.renamed)
    (by decide +kernel :
      _ = some [⟨"a.iso", 2, [⟨"a.iso", 0, [1]⟩, ⟨"a.iso", 0, [2, 3]⟩]⟩])
  have hcomplete := claim emptyUploads c tr emptyUploadStore_fresh (fun _ => rfl) run
  rw [hrenamed] at hcomplete
  obtain ⟨hsize, -⟩ := hcomplete _ (List.mem_singleton_self _)
  exact absurd hsize (by decide)

end JetKvm.VirtualMedia
