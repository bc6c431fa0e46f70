import ReactBridge.Java.TypeMap
import ReactBridge.Proofs.Bridge.Template
import ReactBridge.Proofs.Java.Writer

/-!
# What a builder writes

* `Builder.start_eq_ok`, `Builder.build_eq_ok` : the steps of a builder that succeeds;
* `Builder.build_of_create` : a builder succeeds if its file can be made;
* `Builder.build_template` : the file that it leaves is the text of its template.
-/

namespace ReactBridge.Bridge.Builder
open ReactBridge.Java
open FileSystem (Handle)

theorem start_eq_ok {builder started : Builder Handle} {path : Path} {fs fs' : FileSystem}
    (h : (builder.start path : StateM FileSystem _).run fs = ((.ok (), started), fs')) :
    started.kind = builder.kind ∧ started.config = builder.config ∧
      ∃ writer : Writer Handle, writer.path = path ∧
        (writer.openFile : StateM FileSystem _).run fs = ((.ok (), started.writer), fs') := by
  rw [start] at h
  split at h
  · cases h
  · cases h
  · cases h
  cases hopen : builder.writer.isOpen with
  | true =>
    rw [Writer.retarget, if_pos hopen] at h
    cases h
  | false =>
    rw [Writer.retarget, if_neg (by rw [hopen]; nofun)] at h
    dsimp only at h
    rcases hrun : (Writer.openFile { builder.writer with path } : StateM FileSystem _).run fs with
      ⟨⟨result, opened⟩, fs₁⟩
    rw [run_bind_of_run hrun] at h
    cases result with
    | error e => cases h
    | ok =>
      obtain ⟨houtcome, rfl⟩ := Prod.mk.inj h
      obtain rfl := (Prod.mk.inj houtcome).2
      exact ⟨rfl, rfl, _, rfl, hrun⟩

theorem build_eq_ok {builder built : Builder Handle} {decl : Declaration} {path : Path}
    {fs fs' : FileSystem}
    (h : (builder.build decl : StateM FileSystem _).run fs = ((.ok path, built), fs')) :
    ∃ (writer opened : Writer Handle) (fs₁ : FileSystem), writer.path = path ∧
      (writer.openFile : StateM FileSystem _).run fs = ((.ok (), opened), fs₁) ∧
        (opened.writeAll (builder.kind.pieces builder.config decl) : StateM FileSystem _).run fs₁ =
          ((.ok (), built.writer), fs') := by
  rw [build] at h
  rcases hstart : (builder.start (builder.target decl.packageName) : StateM FileSystem _).run fs with
    ⟨⟨result, started⟩, fs₁⟩
  rw [run_bind_of_run hstart] at h
  cases result with
  | error e => cases h
  | ok =>
    obtain ⟨hkind, hconfig, writer, hpath, hopen⟩ := start_eq_ok hstart
    dsimp only at h
    rcases hwrite : (started.writer.writeAll (started.kind.pieces started.config decl) :
      StateM FileSystem _).run fs₁ with ⟨⟨written, final⟩, fs₂⟩
    rw [run_bind_of_run hwrite] at h
    obtain ⟨houtcome, rfl⟩ := Prod.mk.inj h
    obtain ⟨hresult, rfl⟩ := Prod.mk.inj houtcome
    cases written with
    | error e => cases hresult
    | ok =>
      obtain rfl := Except.ok.inj hresult
      rw [hkind, hconfig] at hwrite
      exact ⟨writer, started.writer, fs₁, hpath, hopen, hwrite⟩

/-- A new builder builds, unless its file cannot be made or is a device. -/
theorem build_of_create {kind : Kind} {config : Config} {decl : Declaration} {path : Path}
    (hpath : (create kind config : Builder Handle).target decl.packageName = path)
    {fs fs' : FileSystem} {handle : Handle} (hcreate : fs.create path = (fs', some handle))
    (hfile : fs'.find handle.location = some (.file [])) :
    ∃ built fs'', ((create kind config : Builder Handle).build decl : StateM FileSystem _).run fs =
      ((.ok path, built), fs'') := by
  obtain ⟨-, hoffset, hresolve, -⟩ := FileSystem.create_eq hcreate
  have htext : Writer.HasText ⟨path, some handle, .start⟩ fs' "" :=
    ⟨handle, rfl, hresolve, FileSystem.holds_empty hfile hoffset⟩
  obtain ⟨written, fs'', hwrite, -⟩ := htext.writeLines (pieceLines (kind.pieces config decl))
  have hfiles : (Files.create path : StateM FileSystem _).run fs = (some handle, fs') :=
    congrArg Prod.swap hcreate
  have hopen : (Writer.openFile ⟨path, none, .start⟩ : StateM FileSystem _).run fs =
      ((.ok (), ⟨path, some handle, .start⟩), fs') := by
    rw [Writer.openFile, if_neg (by exact Bool.false_ne_true)]
    exact run_bind_of_run hfiles _
  have hstart : ((create kind config : Builder Handle).start path : StateM FileSystem _).run fs =
      ((.ok (), ⟨kind, config, .opened, path, some handle, .start⟩), fs') := by
    exact run_bind_of_run hopen _
  refine ⟨⟨kind, config, .emitting, written⟩, fs'', ?_⟩
  rw [build, hpath, run_bind_of_run hstart]
  exact run_bind_of_run hwrite _

/-- **A builder that builds** leaves the text of its template at the path that it gives, and its
writer at the left margin. -/
theorem build_template {builder built : Builder Handle} {decl : Declaration} {path : Path}
    {fs fs' : FileSystem} (hnames : builder.kind.NamesBraceFree builder.config decl)
    (hbuild : (builder.build decl : StateM FileSystem _).run fs = ((.ok path, built), fs')) :
    fs'.textAt path = some (builder.kind.template builder.config decl).text ∧
      built.writer.margin = .start := by
  obtain ⟨writer, opened, fs₁, rfl, hopen, hwrite⟩ := build_eq_ok hbuild
  have htraces := Kind.traces_pieces hnames
  have hlines : pieceLines (builder.kind.pieces builder.config decl) ≠ [] := by
    rw [Kind.pieces_eq]
    exact List.cons_ne_nil _ _
  have hwritten := Writer.textAt_of_writeAll hopen hwrite hlines
  rwa [htraces.written, htraces.behind] at hwritten

/-- A package with one function, which has a parameter and a result. -/
def greeting : Declaration :=
  ⟨"hello", [(⟨"Greet", [⟨"name", "string"⟩]⟩, ⟨"", "string"⟩)]⟩

theorem build_template_greeting :
    ∃ (built : Builder Handle) (fs' : FileSystem),
      ((create (.module goTypes) { output := ⟨"out"⟩ } : Builder Handle).build greeting :
          StateM FileSystem _).run ⟨[([], .directory)], []⟩ =
        ((.ok ⟨"out/com/reactgohybrid/bridge/hello/HelloModule.java"⟩, built), fs') ∧
      (Kind.module goTypes).NamesBraceFree { output := ⟨"out"⟩ } greeting ∧
      fs'.textAt ⟨"out/com/reactgohybrid/bridge/hello/HelloModule.java"⟩ =
        some ("package com.reactgohybrid.bridge.hello;\n\n" ++
          "import com.facebook.react.bridge.ReactApplicationContext;\n" ++
          "import com.facebook.react.bridge.Promise;\n" ++
          "import com.facebook.react.bridge.ReactContextBaseJavaModule;\n" ++
          "import com.facebook.react.bridge.ReactMethod;\n" ++
          "import hello.Hello;\n\n" ++
          "public class HelloModule extends ReactContextBaseJavaModule \x7b\n\n" ++
          "\tpublic HelloModule(ReactApplicationContext reactContext) \x7b\n" ++
          "\t\tsuper(reactContext);\n\t\x7d\n\n" ++
          "\t@Override\n\tpublic String getName() \x7b\n" ++
          "\t\treturn \"HelloModule\";\n\t\x7d\n\n" ++
          "\t@ReactMethod\n\tpublic void greet(String name, Promise promise) \x7b\n" ++
          "\t\ttry \x7b\n\t\t\tString returnParam1 = Hello.greet(name);\n" ++
          "\t\t\tpromise.resolve(returnParam1);\n\t\t\x7d catch(Exception e) \x7b\n" ++
          "\t\t\tpromise.reject(\"Error\", e);\n\t\t\x7d\n\t\x7d\n\n\x7d\n") := by
  have hpath : (create (.module goTypes) { output := ⟨"out"⟩ } : Builder Handle).target
      greeting.packageName = ⟨"out/com/reactgohybrid/bridge/hello/HelloModule.java"⟩ := by decide
  obtain ⟨fs₁, handle, hcreate, hfile⟩ : ∃ fs₁ handle, FileSystem.create ⟨[([], .directory)], []⟩
      ⟨"out/com/reactgohybrid/bridge/hello/HelloModule.java"⟩ = (fs₁, some handle) ∧
        fs₁.find handle.location = some (.file []) := ⟨_, _, rfl, rfl⟩
  have hnames : (Kind.module goTypes).NamesBraceFree { output := ⟨"out"⟩ } greeting := by decide
  obtain ⟨built, fs', hbuild⟩ := build_of_create hpath hcreate hfile
  refine ⟨built, fs', hbuild, hnames, ?_⟩
  exact (build_template hnames hbuild).1.trans (congrArg some (by decide +kernel))

end ReactBridge.Bridge.Builder
