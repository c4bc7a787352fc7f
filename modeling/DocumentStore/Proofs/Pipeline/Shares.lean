import DocumentStore.Proofs.Pipeline.Groups

/-!
# Documents by group

A group collects values, but they can be read from its documents afterwards as well. So grouping is
to share out the documents first, each to the group of its key, and to accumulate the values of each
share then. This holds for keys of any kind: one that does not equal itself gets a share for each
document that has it.
-/
namespace DocumentStore.Group

variable {expression keyExpression key : Value} {outputs : List Output} {d : Document}
  {ds : List Document} {spec : Document}

/-! ## Shares -/

/-- The documents of a group, with the key that the first of them had. -/
structure Share where
  key : Value
  members : List Document

/-- Puts a document to the first share of its key, or starts one. -/
def shareOut (key : Value) (d : Document) : List Share → List Share
  | [] => [⟨key, [d]⟩]
  | share :: rest =>
    if share.key.same key then ⟨share.key, share.members ++ [d]⟩ :: rest
    else share :: shareOut key d rest

/-- The shares of documents, beside those of earlier ones. -/
def sharesFrom (keyExpression : Value) : List Share → List Document → List Share :=
  List.foldl fun shares d => shareOut (keyOf keyExpression d) d shares

/-- The shares of documents. -/
def shares (keyExpression : Value) (ds : List Document) : List Share :=
  sharesFrom keyExpression [] ds

theorem shareOut_perm (key : Value) (d : Document) (all : List Share) :
    ((shareOut key d all).flatMap (·.members)).Perm (d :: all.flatMap (·.members)) := by
  induction all with
  | nil => exact .refl _
  | cons share rest ih =>
    rw [shareOut]
    split
    · simp only [List.flatMap_cons, List.append_assoc]
      exact List.perm_middle
    · simp only [List.flatMap_cons]
      exact (ih.append_left share.members).trans List.perm_middle

theorem sharesFrom_perm (keyExpression : Value) (all : List Share) (ds : List Document) :
    ((sharesFrom keyExpression all ds).flatMap (·.members)).Perm
      (ds ++ all.flatMap (·.members)) := by
  induction ds generalizing all with
  | nil => exact .refl _
  | cons d rest ih =>
    refine (ih _).trans ?_
    exact ((shareOut_perm _ d all).append_left rest).trans List.perm_middle

/-- Every document is in exactly one share. -/
theorem shares_perm (keyExpression : Value) (ds : List Document) :
    ((shares keyExpression ds).flatMap (·.members)).Perm ds := by
  have hperm := sharesFrom_perm keyExpression [] ds
  rwa [List.flatMap_nil, List.append_nil] at hperm

/-- Whether a share has the key of its documents: the first of them has the same one, the others one
that it equals. -/
def Share.Keyed (keyExpression : Value) (share : Share) : Prop :=
  ∃ first rest, share.members = first :: rest ∧ keyOf keyExpression first = share.key ∧
    ∀ d ∈ rest, share.key.same (keyOf keyExpression d) = true

theorem keyed_of_shareOut {all : List Share} (h : ∀ share ∈ all, share.Keyed keyExpression) :
    ∀ share ∈ shareOut (keyOf keyExpression d) d all, share.Keyed keyExpression := by
  induction all with
  | nil => exact List.forall_mem_singleton.mpr ⟨d, [], rfl, rfl, nofun⟩
  | cons share rest ih =>
    obtain ⟨hshare, hrest⟩ := List.forall_mem_cons.mp h
    rw [shareOut]
    split
    · next hsame =>
      obtain ⟨first, others, hmembers, hkey, hothers⟩ := hshare
      refine List.forall_mem_cons.mpr ⟨⟨first, others ++ [d], ?_, hkey, ?_⟩, hrest⟩
      · rw [hmembers, List.cons_append]
      · exact List.forall_mem_append.mpr ⟨hothers, List.forall_mem_singleton.mpr hsame⟩
    · exact List.forall_mem_cons.mpr ⟨hshare, ih hrest⟩

/-- Every share has the key of its documents. -/
theorem shares_keyed (keyExpression : Value) (ds : List Document) :
    ∀ share ∈ shares keyExpression ds, share.Keyed keyExpression := by
  induction ds using List.reverseRecOn with
  | nil => nofun
  | append_singleton ds d ih =>
    rw [shares, sharesFrom, List.foldl_append]
    exact keyed_of_shareOut ih

theorem sharesFrom_of_constant (hself : key.same key = true)
    (hkey : ∀ d ∈ ds, keyOf keyExpression d = key) (members : List Document) :
    sharesFrom keyExpression [⟨key, members⟩] ds = [⟨key, members ++ ds⟩] := by
  induction ds generalizing members with
  | nil => rw [List.append_nil]; rfl
  | cons d rest ih =>
    obtain ⟨hd, hrest⟩ := List.forall_mem_cons.mp hkey
    have hstep : shareOut (keyOf keyExpression d) d [⟨key, members⟩]
        = [⟨key, members ++ [d]⟩] := by rw [shareOut, hd, if_pos hself]
    calc sharesFrom keyExpression [⟨key, members⟩] (d :: rest)
        = sharesFrom keyExpression [⟨key, members ++ [d]⟩] rest := by
          rw [sharesFrom, List.foldl_cons, hstep]
      _ = [⟨key, members ++ d :: rest⟩] := by rw [ih hrest, List.append_assoc]; rfl

/-- Documents that all have one key, which equals itself, are one share. -/
theorem shares_of_constant (hself : key.same key = true)
    (hkey : ∀ other ∈ d :: ds, keyOf keyExpression other = key) :
    shares keyExpression (d :: ds) = [⟨key, d :: ds⟩] := by
  obtain ⟨hd, hrest⟩ := List.forall_mem_cons.mp hkey
  have hfirst : shares keyExpression (d :: ds) = sharesFrom keyExpression [⟨key, [d]⟩] ds := by
    rw [shares, sharesFrom, List.foldl_cons, shareOut, hd]
  rw [hfirst, sharesFrom_of_constant hself hrest]
  rfl

/-! ## Values of shares -/

/-- A group with the values of a share. -/
def Share.bin (outputs : List Output) (share : Share) : Bin :=
  ⟨share.key, outputs.map fun output => share.members.map (valueOf output.expression)⟩

/-- The document of a share. -/
def Share.document (outputs : List Output) (share : Share) : Document :=
  (idField, share.key) :: outputs.map fun output =>
    (output.name, output.accumulator.result (share.members.map (valueOf output.expression)))

theorem addTo_shares (outputs : List Output) (key : Value) (d : Document) (all : List Share) :
    addTo key (outputs.map fun output => valueOf output.expression d) (all.map (·.bin outputs))
      = (shareOut key d all).map (·.bin outputs) := by
  induction all with
  | nil => simp [addTo, shareOut, Share.bin]
  | cons share rest ih =>
    rw [List.map_cons, addTo_cons, ih, shareOut]
    have hkey : (share.bin outputs).key = share.key := rfl
    rw [hkey]
    split
    · simp [Bin.add, Share.bin, List.zipWith_map]
    · rfl

/-- Collecting values is sharing out documents. -/
theorem collect_shares (hkey : Evaluates keyExpression ds)
    (hvalues : ∀ output ∈ outputs, Evaluates output.expression ds) (all : List Share) :
    collect keyExpression outputs (all.map (·.bin outputs)) ds
      = .ok ((sharesFrom keyExpression all ds).map (·.bin outputs)) := by
  induction ds generalizing all with
  | nil => rfl
  | cons d rest ih =>
    have hnext := ih hkey.of_cons (fun output houtput => (hvalues output houtput).of_cons)
      (shareOut (keyOf keyExpression d) d all)
    rw [← addTo_shares] at hnext
    rw [collect, hkey.eq List.mem_cons_self, mapM_evaluate hvalues List.mem_cons_self]
    exact hnext

/-- Grouping gives the document of each share. -/
theorem run_group (hspec : spec.keys.Nodup) (hid : spec.get? idField = some keyExpression)
    (houtputs : readOutputs spec = .ok outputs) (hkey : Evaluates keyExpression ds)
    (hvalues : ∀ output ∈ outputs, Evaluates output.expression ds) :
    Pipeline.run [StageKind.group.stage (.document spec)] ds
      = .ok ((shares keyExpression ds).map (·.document outputs)) := by
  have hnames := nodup_of_readOutputs hspec houtputs
  have hcollect : collect keyExpression outputs [] ds
      = .ok ((shares keyExpression ds).map (·.bin outputs)) := collect_shares hkey hvalues []
  have hdocuments : ((shares keyExpression ds).map (·.bin outputs)).map (·.document outputs)
      = (shares keyExpression ds).map (·.document outputs) := by
    rw [List.map_map]
    exact List.map_congr_left fun share _ => document_of_values hnames share.key _
  rw [Pipeline.run_stage [] ds .group .group _ (by decide)]
  simp only [Pipeline.runStage, Pipeline.document, run, hid, houtputs, hcollect, bind, Except.bind,
    pure, Except.pure, hdocuments]
  rfl

/-- What was accumulated under a name can be read under it. -/
theorem Share.get?_document (hspec : spec.keys.Nodup) (houtputs : readOutputs spec = .ok outputs)
    {output : Output} (houtput : output ∈ outputs) (share : Share) :
    (share.document outputs).get? output.name
      = some (output.accumulator.result (share.members.map (valueOf output.expression))) := by
  have hnames := nodup_of_readOutputs hspec houtputs
  refine Document.get?_of_mem ?_ (List.mem_cons_of_mem _ ?_)
  · simpa [Document.keys, Share.document, Function.comp_def] using hnames
  · exact List.mem_map.mpr ⟨output, houtput, rfl⟩

end DocumentStore.Group
