import Mathlib.Logic.Function.Basic
import JSCameraKit.Library.Machine

set_option autoImplicit false

/-! The effect of a scene, as its field says and as the uniforms of its program say. A link
sets all the uniforms of a program to zero, and `uniform1i` changes those of the program in use. -/

namespace JSCameraKit
namespace Browser
namespace SceneEffects

/-- The names of the effects, and `toLocaleLowerCase`. -/
structure Effects where
  names : List String
  lower : String → String

/-- What the canvases of the page share: contexts and programs have numbers. -/
structure WebGL where
  programs : Nat
  current : Nat → Option Nat
  uniforms : Nat → String → Int

/-- The names of the locations are those of the active uniforms and attributes. -/
structure GLProgram where
  gl : Nat
  prog : Nat
  uniforms : List String
  attributes : List String

/-- What a compiler makes of the shaders. -/
structure Linked where
  uniforms : List String
  attributes : List String

/-- The answers of `getContext`: outside `none` for an exception, inside it for `null`. -/
structure Canvas where
  webgl : Option (Option Nat)
  experimental : Option (Option Nat)

/-- `thrown` holds what the last call found, if it was a `setEffect` that threw. -/
structure Scene where
  gl : Option Nat
  prog : Option GLProgram
  effect : String
  webGL : WebGL
  thrown : Option (String × (Nat → String → Int))

/-- Where a program is built, the compiler gives one or an error. -/
inductive Label
  | setCanvas (canvas : Canvas) (build : Option Linked)
  | initGL (force : Bool) (build : Option Linked)
  | setEffect (name : String)

namespace WebGL

def linkProgram (webGL : WebGL) : WebGL :=
  { webGL with
    programs := webGL.programs + 1
    uniforms := Function.update webGL.uniforms webGL.programs fun _ => 0 }

def useProgram (webGL : WebGL) (gl prog : Nat) : WebGL :=
  { webGL with current := Function.update webGL.current gl (some prog) }

/-- Without a location nothing is done, and a location of a program that is not in use is an
error that changes nothing. -/
def uniform1i (webGL : WebGL) (gl : Nat) (program : GLProgram) (name : String) (value : Int) :
    WebGL :=
  if name ∈ program.uniforms ∧ webGL.current gl = some program.prog then
    { webGL with
      uniforms := Function.update webGL.uniforms program.prog
        (Function.update (webGL.uniforms program.prog) name value) }
  else webGL

end WebGL

/-- The test for `/^uUseEffect/`. -/
def isUseEffect (key : String) : Bool :=
  "uUseEffect".toList.isPrefixOf key.toList

def effectName (key : String) : String :=
  String.ofList (key.toList.drop "uUseEffect".length)

def useEffect (name : String) : String :=
  "uUseEffect" ++ name

namespace Scene

def init : Scene :=
  { gl := none
    prog := none
    effect := "none"
    webGL := { programs := 0, current := fun _ => none, uniforms := fun _ _ => 0 }
    thrown := none }

/-- `initGL` behind the build; `setAttribute` throws where there is no such attribute. -/
def use (scene : Scene) (gl : Nat) (program : GLProgram) : Scene :=
  let webGL := scene.webGL.linkProgram.useProgram gl program.prog
  { scene with
    prog := some program
    webGL :=
      if "aTexCoord" ∈ program.attributes then
        (webGL.uniform1i gl program "uYTexture" 0).uniform1i gl program "uUVTexture" 1
      else webGL }

def initGL (scene : Scene) (force : Bool) (build : Option Linked) : Scene :=
  if !force && scene.prog.isSome then scene
  else
    match scene.gl, build with
    | some gl, some linked =>
        scene.use gl
          { gl := gl
            prog := scene.webGL.programs
            uniforms := linked.uniforms
            attributes := linked.attributes }
    | _, _ => scene

def setCanvas (scene : Scene) (canvas : Canvas) (build : Option Linked) : Scene :=
  match canvas.webgl <|> canvas.experimental with
  | none => scene
  | some gl => initGL { scene with gl := gl } false build

/-- An exception in a call that found another scene. -/
def throw (scene found : Scene) : Scene :=
  { scene with thrown := some (found.effect, found.webGL.uniforms) }

def setUniforms (effects : Effects) (name : String) (gl : Nat) (program : GLProgram)
    (keys : List String) (webGL : WebGL) : WebGL :=
  keys.foldl
    (fun webGL key => webGL.uniform1i gl program key
      (if effects.lower (effectName key) = effects.lower name then 1 else 0)) webGL

def setEffect (effects : Effects) (scene : Scene) (name : String) : Scene :=
  match effects.names.find? fun obj => effects.lower obj = effects.lower name with
  | none => scene.throw scene
  | some _ =>
      let selected := { scene with effect := effects.lower name }
      match scene.prog with
      | none => selected.throw scene
      | some program =>
          match program.uniforms.filter isUseEffect, scene.gl with
          | [], _ => selected
          | _ :: _, none => selected.throw scene
          | keys, some gl =>
              { selected with webGL := setUniforms effects name gl program keys scene.webGL }

def step (effects : Effects) (scene : Scene) : Label → Option Scene
  | .setCanvas canvas build => some (setCanvas { scene with thrown := none } canvas build)
  | .initGL force build => some (initGL { scene with thrown := none } force build)
  | .setEffect name => some (setEffect effects { scene with thrown := none } name)

def machine (effects : Effects) : Machine Scene Label :=
  { initial := fun scene => scene = init
    step := step effects }

/-! ### What the program shows -/

/-- Of the effects whose uniforms are active, the selected one has a one and the others a zero. -/
def Shows (effects : Effects) (scene : Scene) : Prop :=
  ∀ program, scene.prog = some program →
    ∀ name ∈ effects.names, useEffect name ∈ program.uniforms →
      scene.webGL.uniforms program.prog (useEffect name) =
        if effects.lower name = scene.effect then 1 else 0

/-- A call of `setEffect` that throws leaves the effect and the uniforms as it found them. -/
def Untorn (scene : Scene) : Prop :=
  ∀ effect uniforms, scene.thrown = some (effect, uniforms) →
    scene.effect = effect ∧ scene.webGL.uniforms = uniforms

def Agrees (effects : Effects) (scene : Scene) : Prop :=
  scene.Shows effects ∧ scene.Untorn

/-- No program is built in which the selected effect has a uniform. -/
def BuildsUnselected (effects : Effects) (scene : Scene) (force : Bool) (build : Option Linked) :
    Prop :=
  force = true ∨ scene.prog = none →
    scene.gl ≠ none → ∀ linked, build = some linked →
      ∀ name ∈ effects.names, effects.lower name = scene.effect →
        useEffect name ∉ linked.uniforms

/-- The name is selected already, or there is a program that can be told of it. -/
def Tells (effects : Effects) (scene : Scene) (name : String) : Prop :=
  match scene.prog, scene.gl with
  | none, _ => effects.lower name = scene.effect
  | some program, none =>
      effects.lower name = scene.effect ∨ ∀ key ∈ program.uniforms, isUseEffect key = false
  | some program, some gl =>
      gl = program.gl ∨ ∀ obj ∈ effects.names, useEffect obj ∈ program.uniforms →
        (effects.lower obj = effects.lower name ↔ effects.lower obj = scene.effect)

def Told (effects : Effects) (scene : Scene) : Label → Prop
  | .setCanvas canvas build =>
      ∀ gl, (canvas.webgl <|> canvas.experimental) = some gl →
        BuildsUnselected effects { scene with gl := gl } false build
  | .initGL force build => scene.BuildsUnselected effects force build
  | .setEffect name =>
      (∃ obj ∈ effects.names, effects.lower obj = effects.lower name) → scene.Tells effects name

end Scene

/-! ### The uniforms -/

private theorem isUseEffect_useEffect (name : String) : isUseEffect (useEffect name) = true := by
  simp [isUseEffect, useEffect]

private theorem effectName_useEffect (name : String) : effectName (useEffect name) = name := by
  have length : "uUseEffect".length = 10 := rfl
  simp [effectName, useEffect, length]

namespace WebGL

variable {webGL : WebGL} {gl : Nat} {program : GLProgram}

theorem uniform1i_frame (webGL : WebGL) (gl : Nat) (program : GLProgram) (name : String)
    (value : Int) :
    ∃ uniforms, webGL.uniform1i gl program name value = { webGL with uniforms := uniforms } := by
  unfold uniform1i
  split
  · exact ⟨_, rfl⟩
  · exact ⟨webGL.uniforms, rfl⟩

theorem uniform1i_of_other (other : webGL.current gl ≠ some program.prog) (name : String)
    (value : Int) : webGL.uniform1i gl program name value = webGL :=
  if_neg fun both => other both.2

theorem uniform1i_of_current (inUse : webGL.current gl = some program.prog) {name : String}
    (active : name ∈ program.uniforms) (value : Int) (key : String) :
    (webGL.uniform1i gl program name value).uniforms program.prog key =
      if key = name then value else webGL.uniforms program.prog key := by
  rw [uniform1i, if_pos ⟨active, inUse⟩]
  dsimp only
  rw [Function.update_self, Function.update_apply]

theorem uniform1i_of_ne {name key : String} (different : key ≠ name) (value : Int) (prog : Nat) :
    (webGL.uniform1i gl program name value).uniforms prog key = webGL.uniforms prog key := by
  unfold uniform1i
  split
  · dsimp only
    by_cases this : prog = program.prog
    · rw [this, Function.update_self, Function.update_of_ne different]
    · rw [Function.update_of_ne this]
  · rfl

end WebGL

namespace Scene

variable {effects : Effects} {gl : Nat} {program : GLProgram}

private theorem setUniforms_frame (name : String) (keys : List String) (webGL : WebGL) :
    ∃ uniforms,
      setUniforms effects name gl program keys webGL = { webGL with uniforms := uniforms } := by
  induction keys generalizing webGL with
  | nil => exact ⟨webGL.uniforms, rfl⟩
  | cons key keys ih =>
      rw [setUniforms, List.foldl_cons]
      obtain ⟨written, first⟩ := webGL.uniform1i_frame gl program key
        (if effects.lower (effectName key) = effects.lower name then 1 else 0)
      rw [first]
      exact ih { webGL with uniforms := written }

private theorem setUniforms_of_other (name : String) (keys : List String) {webGL : WebGL}
    (other : webGL.current gl ≠ some program.prog) :
    setUniforms effects name gl program keys webGL = webGL := by
  induction keys with
  | nil => rfl
  | cons key keys ih =>
      rw [setUniforms, List.foldl_cons, WebGL.uniform1i_of_other other]
      exact ih

private theorem setUniforms_of_current (name : String) (keys : List String) {webGL : WebGL}
    (inUse : webGL.current gl = some program.prog) (active : ∀ key ∈ keys, key ∈ program.uniforms)
    (key : String) :
    (setUniforms effects name gl program keys webGL).uniforms program.prog key =
      if key ∈ keys then
        if effects.lower (effectName key) = effects.lower name then 1 else 0
      else webGL.uniforms program.prog key := by
  induction keys generalizing webGL with
  | nil => rfl
  | cons first keys ih =>
      have written := WebGL.uniform1i_of_current inUse (active first List.mem_cons_self)
        (if effects.lower (effectName first) = effects.lower name then 1 else 0) key
      have still : (webGL.uniform1i gl program first
          (if effects.lower (effectName first) = effects.lower name then 1 else 0)).current gl =
            some program.prog := by
        obtain ⟨uniforms, same⟩ := webGL.uniform1i_frame gl program first
          (if effects.lower (effectName first) = effects.lower name then 1 else 0)
        rw [same, inUse]
      have rest := ih still fun key member => active key (List.mem_cons_of_mem first member)
      rw [setUniforms, List.foldl_cons]
      refine rest.trans ?_
      rw [written]
      by_cases here : key ∈ keys
      · rw [if_pos here, if_pos (List.mem_cons_of_mem first here)]
      · rw [if_neg here]
        by_cases same : key = first
        · have member : key ∈ first :: keys := same ▸ List.mem_cons_self
          rw [if_pos same, if_pos member, same]
        · rw [if_neg same, if_neg (List.not_mem_cons_of_ne_of_not_mem same here)]

/-! ### Builds -/

/-- The program of the scene is the one in use of its own context, and of no other. -/
structure InUse (scene : Scene) : Prop where
  own : ∀ program, scene.prog = some program →
    ∀ gl, scene.webGL.current gl = some program.prog ↔ gl = program.gl
  below : ∀ gl prog, scene.webGL.current gl = some prog → prog < scene.webGL.programs

theorem use_frame (scene : Scene) (gl : Nat) (program : GLProgram) :
    ∃ uniforms, (scene.use gl program).webGL =
      { programs := scene.webGL.programs + 1
        current := Function.update scene.webGL.current gl (some program.prog)
        uniforms := uniforms } := by
  unfold use
  dsimp only
  split
  · obtain ⟨first, sampledY⟩ := WebGL.uniform1i_frame
      (scene.webGL.linkProgram.useProgram gl program.prog) gl program "uYTexture" 0
    obtain ⟨second, sampledUV⟩ := WebGL.uniform1i_frame
      { scene.webGL.linkProgram.useProgram gl program.prog with uniforms := first } gl program
      "uUVTexture" 1
    exact ⟨second, by rw [sampledY, sampledUV]; rfl⟩
  · exact ⟨_, rfl⟩

private theorem use_uniforms {scene : Scene} (new : program.prog = scene.webGL.programs) (gl : Nat)
    {key : String} (use : isUseEffect key = true) :
    (scene.use gl program).webGL.uniforms program.prog key = 0 := by
  have notY : key ≠ "uYTexture" := by
    rintro rfl
    exact absurd use (by decide)
  have notUV : key ≠ "uUVTexture" := by
    rintro rfl
    exact absurd use (by decide)
  have linked :
      (scene.webGL.linkProgram.useProgram gl program.prog).uniforms program.prog key = 0 := by
    dsimp only [WebGL.useProgram, WebGL.linkProgram]
    rw [new, Function.update_self]
  unfold Scene.use
  dsimp only
  split
  · rw [WebGL.uniform1i_of_ne notUV, WebGL.uniform1i_of_ne notY]
    exact linked
  · exact linked

theorem InUse.use {scene : Scene} (inUse : scene.InUse)
    (new : program.prog = scene.webGL.programs) : (scene.use program.gl program).InUse := by
  obtain ⟨uniforms, same⟩ := scene.use_frame program.gl program
  refine ⟨?_, ?_⟩
  · intro built current gl
    cases current
    rw [same]
    dsimp only
    rw [Function.update_apply]
    split
    next here => exact iff_of_true rfl here
    next elsewhere =>
      refine iff_of_false ?_ elsewhere
      intro before
      have less := inUse.below gl _ before
      omega
  · intro gl prog current
    rw [same] at current ⊢
    dsimp only at current ⊢
    rw [Function.update_apply] at current
    split at current
    · cases current
      omega
    · have less := inUse.below gl prog current
      omega

/-- A call of `initGL` builds a program for the context of the scene, or changes nothing. -/
theorem initGL_cases (scene : Scene) (force : Bool) (build : Option Linked) :
    (scene.initGL force build = scene ∧
        ¬((force = true ∨ scene.prog = none) ∧ scene.gl ≠ none ∧ build ≠ none)) ∨
      ∃ gl linked, (force = true ∨ scene.prog = none) ∧ scene.gl = some gl ∧
        build = some linked ∧
        scene.initGL force build =
          scene.use gl
            { gl := gl
              prog := scene.webGL.programs
              uniforms := linked.uniforms
              attributes := linked.attributes } := by
  unfold initGL
  split
  next built =>
    refine .inl ⟨rfl, ?_⟩
    rintro ⟨forced | none, _⟩
    · rw [forced] at built
      exact Bool.false_ne_true built
    · rw [none, Option.isSome_none, Bool.and_false] at built
      exact Bool.false_ne_true built
  next builds =>
    have first : force = true ∨ scene.prog = none := by
      cases force with
      | true => exact .inl rfl
      | false => exact .inr (by simpa using builds)
    cases context : scene.gl with
    | none => exact .inl ⟨rfl, fun all => all.2.1 rfl⟩
    | some gl =>
        cases build with
        | none => exact .inl ⟨rfl, fun all => all.2.2 rfl⟩
        | some linked => exact .inr ⟨gl, linked, first, rfl, rfl, rfl⟩

theorem InUse.initGL {scene : Scene} (inUse : scene.InUse) (force : Bool)
    (build : Option Linked) : (scene.initGL force build).InUse := by
  rcases scene.initGL_cases force build with ⟨same, _⟩ | ⟨gl, linked, _, _, _, same⟩
  · rw [same]
    exact inUse
  · rw [same]
    exact inUse.use rfl

/-- All uniforms of a new program are zero, that of the selected effect among them. -/
theorem shows_initGL_iff {scene : Scene} (shows : scene.Shows effects) (force : Bool)
    (build : Option Linked) :
    (scene.initGL force build).Shows effects ↔ scene.BuildsUnselected effects force build := by
  rcases scene.initGL_cases force build with
    ⟨same, unbuilt⟩ | ⟨gl, linked, first, context, built, same⟩
  · rw [same]
    refine iff_of_true shows ?_
    intro first context linked built
    have links : build ≠ none := by
      rw [built]
      exact Option.some_ne_none linked
    exact absurd ⟨first, context, links⟩ unbuilt
  · rw [same]
    constructor
    · intro shown _ _ other same name member selected active
      rw [built] at same
      cases same
      have one := shown _ rfl name member active
      rw [use_uniforms rfl gl (isUseEffect_useEffect name)] at one
      have impossible : (0 : Int) = 1 := one.trans (if_pos selected)
      exact absurd impossible (by decide)
    · intro unselected program same name member active
      cases same
      have other : effects.lower name ≠ scene.effect := by
        intro selected
        have isContext : scene.gl ≠ none := by
          rw [context]
          exact Option.some_ne_none gl
        exact unselected first isContext linked built name member selected active
      rw [use_uniforms rfl gl (isUseEffect_useEffect name)]
      exact (if_neg other).symm

/-! ### Selections -/

private theorem flag_eq_iff (p q : Prop) [Decidable p] [Decidable q] :
    (if p then (1 : Int) else 0) = (if q then 1 else 0) ↔ (p ↔ q) := by
  by_cases holds : p
  · by_cases also : q
    · simp [holds, also]
    · simp [holds, also]
  · by_cases also : q
    · simp [holds, also]
    · simp [holds, also]

/-- Through the context of the program the loop shows the selection; through another one it
changes nothing. -/
theorem shows_setUniforms_iff {scene : Scene} (inUse : scene.InUse) (shows : scene.Shows effects)
    (built : scene.prog = some program) (name : String) (gl : Nat) :
    Shows effects
        { scene with
          effect := effects.lower name
          webGL := setUniforms effects name gl program (program.uniforms.filter isUseEffect)
            scene.webGL } ↔
      gl = program.gl ∨ ∀ obj ∈ effects.names, useEffect obj ∈ program.uniforms →
        (effects.lower obj = effects.lower name ↔ effects.lower obj = scene.effect) := by
  have current := inUse.own program built gl
  by_cases here : gl = program.gl
  · refine iff_of_true ?_ (.inl here)
    intro other same obj member active
    cases built.symm.trans same
    have key : useEffect obj ∈ program.uniforms.filter isUseEffect :=
      List.mem_filter.mpr ⟨active, isUseEffect_useEffect obj⟩
    refine (setUniforms_of_current name _ (current.mpr here)
      (fun key member => (List.mem_filter.mp member).1) (useEffect obj)).trans ?_
    rw [if_pos key, effectName_useEffect]
  · rw [setUniforms_of_other name _ (mt current.mp here), or_iff_right here]
    constructor
    · intro shown obj member active
      have new := shown program built obj member active
      rw [shows program built obj member active] at new
      exact ((flag_eq_iff _ _).mp new).symm
    · intro told other same obj member active
      cases built.symm.trans same
      rw [shows program built obj member active]
      exact (flag_eq_iff _ _).mpr (told obj member active).symm

theorem InUse.setEffect {scene : Scene} (inUse : scene.InUse) (name : String) :
    (scene.setEffect effects name).InUse := by
  unfold Scene.setEffect
  split
  next => exact ⟨inUse.own, inUse.below⟩
  next =>
    dsimp only
    split
    next none => exact ⟨inUse.own, inUse.below⟩
    next program built =>
      split
      next => exact ⟨inUse.own, inUse.below⟩
      next => exact ⟨inUse.own, inUse.below⟩
      next gl _ _ =>
        obtain ⟨uniforms, same⟩ : ∃ uniforms,
            setUniforms effects name gl program (program.uniforms.filter isUseEffect) scene.webGL =
              { scene.webGL with uniforms := uniforms } := setUniforms_frame _ _ _
        rw [same]
        exact ⟨inUse.own, inUse.below⟩

private theorem agrees_throw_iff {scene : Scene} (shows : scene.Shows effects) (effect : String) :
    Agrees effects (throw { scene with effect := effect } scene) ↔ effect = scene.effect := by
  constructor
  · intro agrees
    exact (agrees.2 _ _ rfl).1
  · rintro rfl
    refine ⟨shows, ?_⟩
    intro effect uniforms same
    cases same
    exact ⟨rfl, rfl⟩

private theorem agrees_setEffect_iff {scene : Scene} (inUse : scene.InUse)
    (shows : scene.Shows effects)
    (quiet : scene.thrown = none) (name : String) :
    (scene.setEffect effects name).Agrees effects ↔
      ((∃ obj ∈ effects.names, effects.lower obj = effects.lower name) →
        scene.Tells effects name) := by
  have untorn : ∀ next : Scene, next.thrown = scene.thrown → next.Untorn := by
    intro next same effect uniforms thrown
    rw [same, quiet] at thrown
    cases thrown
  unfold setEffect
  split
  next unknown =>
    refine iff_of_true ((agrees_throw_iff shows scene.effect).mpr rfl) ?_
    rintro ⟨obj, member, same⟩
    have different := List.find?_eq_none.mp unknown obj member
    exact absurd (decide_eq_true same) different
  next obj found =>
    have known : ∃ obj ∈ effects.names, effects.lower obj = effects.lower name :=
      ⟨obj, List.mem_of_find?_eq_some found, by simpa using List.find?_some found⟩
    rw [forall_prop_of_true known]
    obtain ⟨context, prog, effect, webGL, thrown⟩ := scene
    cases prog with
    | none => exact agrees_throw_iff shows (effects.lower name)
    | some program =>
        dsimp only
        cases keys : program.uniforms.filter isUseEffect with
        | nil =>
            have inactive : ∀ key ∈ program.uniforms, isUseEffect key = false := by
              intro key member
              have empty := List.filter_eq_nil_iff.mp keys key member
              simpa using empty
            have none : ∀ obj, useEffect obj ∉ program.uniforms := by
              intro obj active
              have same := inactive (useEffect obj) active
              rw [isUseEffect_useEffect] at same
              cases same
            refine iff_of_true ⟨?_, untorn _ rfl⟩ ?_
            · intro other same obj _ active
              cases same
              exact absurd active (none obj)
            · cases context with
              | none => exact .inr inactive
              | some gl => exact .inr fun obj _ active => absurd active (none obj)
        | cons key rest =>
            cases context with
            | none =>
                have member : key ∈ program.uniforms.filter isUseEffect := by
                  rw [keys]
                  exact List.mem_cons_self
                have active : ¬∀ key ∈ program.uniforms, isUseEffect key = false := by
                  intro inactive
                  obtain ⟨listed, isKey⟩ := List.mem_filter.mp member
                  rw [inactive key listed] at isKey
                  cases isKey
                exact (agrees_throw_iff shows (effects.lower name)).trans (or_iff_left active).symm
            | some gl =>
                have shown := shows_setUniforms_iff inUse shows rfl name gl
                rw [keys] at shown
                constructor
                · intro agrees
                  exact shown.mp agrees.1
                · intro tells
                  exact ⟨shown.mpr tells, untorn _ rfl⟩

/-! ### Every run -/

def Invariant (effects : Effects) (scene : Scene) : Prop :=
  scene.Agrees effects ∧ scene.InUse

theorem init_invariant (effects : Effects) : Invariant effects init := by
  refine ⟨⟨?_, ?_⟩, ?_, ?_⟩
  · intro program impossible
    cases impossible
  · intro effect uniforms impossible
    cases impossible
  · intro program impossible
    cases impossible
  · intro gl prog impossible
    cases impossible

private theorem untorn_initGL {scene : Scene} (quiet : scene.thrown = none) (force : Bool)
    (build : Option Linked) : (scene.initGL force build).Untorn := by
  have still : (scene.initGL force build).thrown = none := by
    rcases scene.initGL_cases force build with ⟨same, _⟩ | ⟨gl, linked, _, _, _, same⟩
    · rw [same, quiet]
    · rw [same]
      exact quiet
  intro effect uniforms thrown
  rw [still] at thrown
  cases thrown

/-- One step from a state in which the uniforms agree: they go on to exactly if it is told. -/
theorem step_spec {scene next : Scene} {label : Label} (invariant : Invariant effects scene)
    (taken : step effects scene label = some next) :
    next.InUse ∧ (next.Agrees effects ↔ Told effects scene label) := by
  obtain ⟨⟨shows, _⟩, inUse⟩ := invariant
  have still : InUse { scene with thrown := none } := ⟨inUse.own, inUse.below⟩
  have stillShows : Shows effects { scene with thrown := none } := shows
  cases label with
  | setCanvas canvas build =>
      cases taken
      unfold setCanvas
      cases answer : (canvas.webgl <|> canvas.experimental) with
      | none =>
          refine ⟨still, iff_of_true ⟨shows, ?_⟩ ?_⟩
          · intro effect uniforms impossible
            cases impossible
          · intro gl impossible
            rw [answer] at impossible
            cases impossible
      | some gl =>
          have moved : InUse { scene with gl := gl, thrown := none } := ⟨inUse.own, inUse.below⟩
          refine ⟨moved.initGL false build, ?_⟩
          have moving : Shows effects { scene with gl := gl, thrown := none } := shows
          have shown := shows_initGL_iff moving false build
          constructor
          · intro agrees other same
            rw [answer] at same
            cases same
            exact shown.mp agrees.1
          · intro told
            exact ⟨shown.mpr (told gl answer), untorn_initGL rfl false build⟩
  | initGL force build =>
      cases taken
      refine ⟨still.initGL force build, ?_⟩
      have shown := shows_initGL_iff stillShows force build
      constructor
      · intro agrees
        exact shown.mp agrees.1
      · intro told
        exact ⟨shown.mpr told, untorn_initGL rfl force build⟩
  | setEffect name =>
      cases taken
      exact ⟨still.setEffect name,
        agrees_setEffect_iff still stillShows rfl name⟩

/-- In every run the uniforms show the selected effect at each moment, and no call that throws
leaves a trace, exactly when the program is told of each selection. -/
theorem agrees_iff_told (effects : Effects) (labels : List Label) :
    (machine effects).Always (Agrees effects) init labels ↔
      (machine effects).Permits (Told effects) init labels :=
  Machine.always_iff_permits (Invariant effects) (fun _ invariant => invariant.1)
    (fun _ _ _ invariant taken told =>
      ⟨(step_spec invariant taken).2.mpr told, (step_spec invariant taken).1⟩)
    (fun _ _ _ invariant taken agrees => (step_spec invariant taken).2.mp agrees)
    labels init (init_invariant effects)

/-- The effects of a new scene, whose names are all ASCII. -/
def presets : Effects :=
  { names := ["Grayscale", "None", "Sepia", "Polaroid", "CRT"]
    lower := fun name => String.ofList (name.toList.map Char.toLower) }

/-- An effect is selected before there is a program: the call throws and selects it. -/
theorem not_agrees_of_setEffectFirst :
    ¬(machine presets).Always (Agrees presets) init [.setEffect "Sepia"] := by
  intro always
  have agrees : Agrees _ _ := always.2 _ rfl
  have unchanged : "sepia" = "none" := (agrees.2 _ _ rfl).1
  exact absurd unchanged (by decide)

end Scene
end SceneEffects
end Browser
end JSCameraKit
