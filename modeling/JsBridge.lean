import JsBridge.Basic
import JsBridge.Method
import JsBridge.Marshal
import JsBridge.Triple
import JsBridge.JavaScriptObject
import JsBridge.Duktape.Engine
import JsBridge.Duktape.JavaScriptMethod
import JsBridge.Duktape.JavaMethod
import JsBridge.Duktape.JavaScriptObject
import JsBridge.QuickJs.Runtime
import JsBridge.QuickJs.JavaScriptMethod
import JsBridge.QuickJs.JavaMethod
import JsBridge.QuickJs.JavaScriptObject
import JsBridge.Proofs.MethodTable
import JsBridge.Proofs.DuktapeStack
import JsBridge.Proofs.DuktapeArguments
import JsBridge.Proofs.QuickJsArguments
import JsBridge.Proofs.QuickJsJavaScriptMethod
import JsBridge.Proofs.JavaScriptMethodCalls
import JsBridge.Proofs.JavaScriptMethodResult
import JsBridge.Proofs.DuktapeJavaMethod
import JsBridge.Proofs.QuickJsJavaMethod
import JsBridge.Proofs.DuktapeJavaScriptObject
import JsBridge.Proofs.QuickJsJavaScriptObject
import JsBridge.Proofs.ObjectRegistry
import JsBridge.Proofs.RoundTrip
import JsBridge.Proofs.Backends
