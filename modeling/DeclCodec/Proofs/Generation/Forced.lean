import DeclCodec.Generation
import DeclCodec.Proofs.Traversal

/-!
# Generating everything

The command may be told to generate what is up to date as well. That decides which
packages it generates, and nothing else: what comes of a package is the same. No
step of collecting and of emitting a package looks at that setting.
-/

namespace DeclCodec

/-- The settings with the word to generate everything. -/
def Settings.forced (settings : Settings) : Settings := { settings with force := true }

namespace Package

/-- A package with the word to generate everything. -/
def forced (package : Package) : Package := { package with settings := package.settings.forced }

variable (package : Package)

/-! ## Collecting -/

/-- A declaration is resolved alike. -/
theorem resolveNamed_forced (decl : Decl) :
    resolveNamed package.forced decl = forced <$> resolveNamed package decl := by
  have resolves : resolveDecl package.forced decl = forced <$> resolveDecl package decl := by
    rcases decl with ⟨name, fields, unit⟩ | ⟨name, type, unit⟩
    · change (fields.foldlM (collectField package.settings package.types) package.progress >>= _) =
        _
      rw [resolveDecl]
      cases fields.foldlM (collectField package.settings package.types) package.progress <;> rfl
    · rw [resolveDecl, resolveDecl]
      change (package.progress.attempt (describeKnown package.types type) >>= _) = _
      cases package.progress.attempt (describeKnown package.types type) <;> rfl
  rw [resolveNamed, resolveNamed, resolves]
  cases resolveDecl package decl <;> rfl

/-- The struct that a type holds is the same. -/
theorem heldStruct?_forced (steps : Nat) (type : Descriptor) :
    package.forced.heldStruct? steps type = package.heldStruct? steps type := by
  induction steps generalizing type with
  | zero => rfl
  | succ steps inductionHypothesis =>
    cases type with
    | named path name =>
      rw [heldStruct?, heldStruct?]
      simp only [inductionHypothesis]
      rfl
    | _ => rfl

/-- The whole is checked alike. -/
theorem checkWhole_forced : package.forced.checkWhole = package.checkWhole := by
  have structs : package.forced.structGraph = package.structGraph := by
    unfold structGraph
    simp only [heldStruct?_forced]
    rfl
  unfold checkWhole
  rw [structs]
  rfl

/-- Units are recorded alike. -/
theorem record_forced (name : String) (settings : Settings) (units : List DeclUnit) :
    record name settings.forced units = forced <$> record name settings units := by
  rw [record, record]
  cases ((Text.sortBy (fun unit => unit.name) units).flatMap (·.decls)).foldlM recordDecl [] <;> rfl

/-- The type of identifiers is resolved alike. -/
theorem resolveIdType_forced : package.forced.resolveIdType = forced <$> package.resolveIdType := by
  rw [resolveIdType, resolveIdType]
  change (Descriptor.parse package.settings.idType >>= _) = _
  cases Descriptor.parse package.settings.idType with
  | error fault => rfl
  | ok type =>
    dsimp only [bind, Except.bind]
    change (checkKnown package.types type >>= _) = _
    cases checkKnown package.types type <;> rfl

/-- Units are collected alike. -/
theorem collect_forced (name : String) (settings : Settings) (units : List DeclUnit) :
    collect name settings.forced units = forced <$> collect name settings units := by
  rw [collect, collect, record_forced]
  cases record name settings units with
  | error fault => rfl
  | ok recorded =>
    dsimp only [Functor.map, Except.map]
    rw [resolveIdType_forced]
    cases recorded.resolveIdType with
    | error fault => rfl
    | ok started =>
      have resolves : (started.forced.types.map (·.2)).foldlM resolveNamed started.forced =
          forced <$> (started.types.map (·.2)).foldlM resolveNamed started :=
        foldlM_change resolveNamed_forced _ _
      dsimp only [Functor.map, Except.map] at resolves ⊢
      rw [resolves]
      cases (started.types.map (·.2)).foldlM resolveNamed started with
      | error failure => rfl
      | ok package =>
        dsimp only
        rw [checkWhole_forced]
        cases package.checkWhole <;> rfl

/-! ## Emitting -/

/-- The annotation of a type is the same. -/
theorem annotateWith_forced (onAlias : Option (Descriptor → Except Fault Annotation))
    (type : Descriptor) :
    package.forced.annotateWith onAlias type = package.annotateWith onAlias type := by
  induction type with
  | named path name => rfl
  | pointer elem elem_ih => rw [annotateWith, elem_ih, annotateWith]
  | slice elem elem_ih => rw [annotateWith, elem_ih, annotateWith]
  | map key value key_ih value_ih => rw [annotateWith, key_ih, value_ih, annotateWith]

/-- So it is if aliases are replaced. -/
theorem expandWithin_forced (steps : Nat) :
    package.forced.expandWithin steps = package.expandWithin steps := by
  induction steps with
  | zero =>
    funext type
    exact annotateWith_forced package _ type
  | succ steps inductionHypothesis =>
    funext type
    rw [expandWithin, inductionHypothesis, annotateWith_forced, expandWithin]

/-- The default of a type is the same. -/
theorem defaultWithin_forced (steps : Nat) (type : Descriptor) :
    package.forced.defaultWithin steps type = package.defaultWithin steps type := by
  induction steps generalizing type with
  | zero => cases type <;> simp [defaultWithin]
  | succ steps inductionHypothesis =>
    cases type with
    | named path name =>
      have target : package.forced.aliasTarget? path name = package.aliasTarget? path name := rfl
      cases found : package.aliasTarget? path name with
      | none => simp [defaultWithin, target, found]
      | some other => simp [defaultWithin, target, found, inductionHypothesis]
    | _ => simp [defaultWithin]

/-- The shape of a map key is the same. -/
theorem keyShapeWithin_forced (steps : Nat) (key : Descriptor) :
    package.forced.keyShapeWithin steps key = package.keyShapeWithin steps key := by
  induction steps generalizing key with
  | zero => rfl
  | succ steps inductionHypothesis =>
    rw [keyShapeWithin, keyShapeWithin]
    simp only [inductionHypothesis]
    rfl

/-- The shape of a type is the same. -/
theorem shapeWith_forced (onAlias : Descriptor → Except Fault Shape) (type : Descriptor) :
    package.forced.shapeWith onAlias type = package.shapeWith onAlias type := by
  have keyShape (key : Descriptor) : package.forced.keyShape key = package.keyShape key :=
    keyShapeWithin_forced package _ key
  induction type with
  | named path name => rfl
  | pointer elem elem_ih => rw [shapeWith, elem_ih, shapeWith]
  | slice elem elem_ih => rw [shapeWith, elem_ih, shapeWith]
  | map key value _ value_ih => rw [shapeWith, value_ih, keyShape, shapeWith]

/-- So it is within any number of steps. -/
theorem shapeWithin_forced (steps : Nat) :
    package.forced.shapeWithin steps = package.shapeWithin steps := by
  induction steps with
  | zero =>
    funext type
    exact shapeWith_forced package _ type
  | succ steps inductionHypothesis =>
    funext type
    rw [shapeWithin, inductionHypothesis, shapeWith_forced, shapeWithin]

/-- The module is the same. -/
theorem emit_forced : package.forced.emit = package.emit := by
  have annotated (type : Descriptor) : package.forced.annotation type = package.annotation type :=
    annotateWith_forced package none type
  have default (type : Descriptor) : package.forced.defaultOf type = package.defaultOf type :=
    defaultWithin_forced package _ type
  have shape (type : Descriptor) : package.forced.shape type = package.shape type :=
    congrFun (shapeWithin_forced package _) type
  have line : package.forced.fieldLine = package.fieldLine := by
    funext member
    unfold fieldLine fieldAnnotation
    rw [annotated, default]
    rfl
  have read : package.forced.read? = package.read? := by
    funext member
    unfold read?
    simp only [shape]
    rfl
  have struct : package.forced.structClass = package.structClass := by
    funext name members
    rw [structClass, line, read, structClass]
  have aliasLine : package.forced.aliasLine = package.aliasLine := by
    funext name target
    exact congrArg (Prod.mk name <$> ·) (congrFun (expandWithin_forced package _) target)
  have wrapper : package.forced.wrapper = package.wrapper := by
    funext type
    unfold wrapper
    simp only [annotated, default]
    rfl
  have wrappers : package.forced.wrappers = package.wrappers := by
    rw [Package.wrappers, wrapper]
    rfl
  unfold emit module
  rw [struct, aliasLine, wrappers]
  rfl

end Package

/-- What comes of a package does not depend on the word to generate everything. -/
theorem processPackage_forced (name : String) (settings : Settings) (units : List DeclUnit) :
    processPackage name settings.forced units = processPackage name settings units := by
  rw [processPackage, processPackage, Package.collect_forced]
  cases Package.collect name settings units with
  | error failure => rfl
  | ok package =>
    dsimp only [Functor.map, Except.map]
    rw [Package.emit_forced]
    rfl

end DeclCodec
