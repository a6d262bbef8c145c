import NativeFlow.Interface.Basic

namespace NativeFlow.Interface

/-!
# The function table

* `rows`: the functions of the interface in the order of their slots.
* `ofSlot?`, `ofName?`, `ofSymbol?`: the three ways to address a function.
-/

/-- Every function of the interface in the order of the slots: its name, its linker symbol, and what
it does. -/
def rows : List (String × Option String × Behaviour) := [
  ("reserved0", none, .reserved),
  ("reserved1", none, .reserved),
  ("reserved2", none, .reserved),
  ("reserved3", none, .reserved),
  ("GetVersion", some "_ZN7_JNIEnv10GetVersionEv", .unconstrained (.primitive .int)),
  ("DefineClass", some "_ZN7_JNIEnv11DefineClassEPKcP8_jobjectPKai", .defineClass),
  ("FindClass", some "_ZN7_JNIEnv9FindClassEPKc", .findClass),
  ("FromReflectedMethod", some "_ZN7_JNIEnv19FromReflectedMethodEP8_jobject", .fromReflectedMethod),
  ("FromReflectedField", some "_ZN7_JNIEnv18FromReflectedFieldEP8_jobject", .fromReflectedField),
  ("ToReflectedMethod", some "_ZN7_JNIEnv17ToReflectedMethodEP7_jclassP10_jmethodIDh", .toReflectedMethod),
  ("GetSuperclass", some "_ZN7_JNIEnv13GetSuperclassEP7_jclass", .superclass),
  ("IsAssignableFrom", some "_ZN7_JNIEnv16IsAssignableFromEP7_jclassS1_", .unconstrained (.primitive .boolean)),
  ("ToReflectedField", some "_ZN7_JNIEnv16ToReflectedFieldEP7_jclassP9_jfieldIDh", .toReflectedField),
  ("Throw", some "_ZN7_JNIEnv5ThrowEP11_jthrowable", .unconstrained (.primitive .int)),
  ("ThrowNew", some "_ZN7_JNIEnv8ThrowNewEP7_jclassPKc", .unconstrained (.primitive .int)),
  ("ExceptionOccurred", some "_ZN7_JNIEnv17ExceptionOccurredEv", .unconstrained .object),
  ("ExceptionDescribe", some "_ZN7_JNIEnv17ExceptionDescribeEv", .unconstrained .void),
  ("ExceptionClear", some "_ZN7_JNIEnv14ExceptionClearEv", .unconstrained .void),
  ("FatalError", some "_ZN7_JNIEnv10FatalErrorEPKc", .unconstrained .void),
  ("PushLocalFrame", some "_ZN7_JNIEnv14PushLocalFrameEi", .unconstrained (.primitive .int)),
  ("PopLocalFrame", some "_ZN7_JNIEnv13PopLocalFrameEP8_jobject", .newReference),
  ("NewGlobalRef", some "_ZN7_JNIEnv12NewGlobalRefEP8_jobject", .newReference),
  ("DeleteGlobalRef", some "_ZN7_JNIEnv15DeleteGlobalRefEP8_jobject", .unconstrained .void),
  ("DeleteLocalRef", some "_ZN7_JNIEnv14DeleteLocalRefEP8_jobject", .unconstrained .void),
  ("IsSameObject", some "_ZN7_JNIEnv12IsSameObjectEP8_jobjectS1_", .unconstrained (.primitive .boolean)),
  ("NewLocalRef", some "_ZN7_JNIEnv11NewLocalRefEP8_jobject", .newReference),
  ("EnsureLocalCapacity", some "_ZN7_JNIEnv19EnsureLocalCapacityEi", .unconstrained (.primitive .int)),
  ("AllocObject", some "_ZN7_JNIEnv11AllocObjectEP7_jclass", .allocObject),
  ("NewObject", some "_ZN7_JNIEnv9NewObjectEP7_jclassP10_jmethodIDz", .newObject),
  ("NewObjectV", some "_ZN7_JNIEnv10NewObjectVEP7_jclassP10_jmethodIDPc", .newObject),
  ("NewObjectA", some "_ZN7_JNIEnv10NewObjectAEP7_jclassP10_jmethodIDP6jvalue", .newObject),
  ("GetObjectClass", some "_ZN7_JNIEnv14GetObjectClassEP8_jobject", .objectClass),
  ("IsInstanceOf", some "_ZN7_JNIEnv12IsInstanceOfEP8_jobjectP7_jclass", .unconstrained (.primitive .boolean)),
  ("GetMethodID", some "_ZN7_JNIEnv11GetMethodIDEP7_jclassPKcS3_", .methodId false),
  ("CallObjectMethod", some "_ZN7_JNIEnv16CallObjectMethodEP8_jobjectP10_jmethodIDz", .invoke .object .virtual .variadic),
  ("CallObjectMethodV", some "_ZN7_JNIEnv17CallObjectMethodVEP8_jobjectP10_jmethodIDPc", .invoke .object .virtual .vaList),
  ("CallObjectMethodA", some "_ZN7_JNIEnv17CallObjectMethodAEP8_jobjectP10_jmethodIDP6jvalue", .invoke .object .virtual .array),
  ("CallBooleanMethod", some "_ZN7_JNIEnv17CallBooleanMethodEP8_jobjectP10_jmethodIDz", .invoke (.primitive .boolean) .virtual .variadic),
  ("CallBooleanMethodV", some "_ZN7_JNIEnv18CallBooleanMethodVEP8_jobjectP10_jmethodIDPc", .invoke (.primitive .boolean) .virtual .vaList),
  ("CallBooleanMethodA", some "_ZN7_JNIEnv18CallBooleanMethodAEP8_jobjectP10_jmethodIDP6jvalue", .invoke (.primitive .boolean) .virtual .array),
  ("CallByteMethod", some "_ZN7_JNIEnv14CallByteMethodEP8_jobjectP10_jmethodIDz", .invoke (.primitive .byte) .virtual .variadic),
  ("CallByteMethodV", some "_ZN7_JNIEnv15CallByteMethodVEP8_jobjectP10_jmethodIDPc", .invoke (.primitive .byte) .virtual .vaList),
  ("CallByteMethodA", some "_ZN7_JNIEnv15CallByteMethodAEP8_jobjectP10_jmethodIDP6jvalue", .invoke (.primitive .byte) .virtual .array),
  ("CallCharMethod", some "_ZN7_JNIEnv14CallCharMethodEP8_jobjectP10_jmethodIDz", .invoke (.primitive .char) .virtual .variadic),
  ("CallCharMethodV", some "_ZN7_JNIEnv15CallCharMethodVEP8_jobjectP10_jmethodIDPc", .invoke (.primitive .char) .virtual .vaList),
  ("CallCharMethodA", some "_ZN7_JNIEnv15CallCharMethodAEP8_jobjectP10_jmethodIDP6jvalue", .invoke (.primitive .char) .virtual .array),
  ("CallShortMethod", some "_ZN7_JNIEnv15CallShortMethodEP8_jobjectP10_jmethodIDz", .invoke (.primitive .short) .virtual .variadic),
  ("CallShortMethodV", some "_ZN7_JNIEnv16CallShortMethodVEP8_jobjectP10_jmethodIDPc", .invoke (.primitive .short) .virtual .vaList),
  ("CallShortMethodA", some "_ZN7_JNIEnv16CallShortMethodAEP8_jobjectP10_jmethodIDP6jvalue", .invoke (.primitive .short) .virtual .array),
  ("CallIntMethod", some "_ZN7_JNIEnv13CallIntMethodEP8_jobjectP10_jmethodIDz", .invoke (.primitive .int) .virtual .variadic),
  ("CallIntMethodV", some "_ZN7_JNIEnv14CallIntMethodVEP8_jobjectP10_jmethodIDPc", .invoke (.primitive .int) .virtual .vaList),
  ("CallIntMethodA", some "_ZN7_JNIEnv14CallIntMethodAEP8_jobjectP10_jmethodIDP6jvalue", .invoke (.primitive .int) .virtual .array),
  ("CallLongMethod", some "_ZN7_JNIEnv14CallLongMethodEP8_jobjectP10_jmethodIDz", .invoke (.primitive .long) .virtual .variadic),
  ("CallLongMethodV", some "_ZN7_JNIEnv15CallLongMethodVEP8_jobjectP10_jmethodIDPc", .invoke (.primitive .long) .virtual .vaList),
  ("CallLongMethodA", some "_ZN7_JNIEnv15CallLongMethodAEP8_jobjectP10_jmethodIDP6jvalue", .invoke (.primitive .long) .virtual .array),
  ("CallFloatMethod", some "_ZN7_JNIEnv15CallFloatMethodEP8_jobjectP10_jmethodIDz", .invoke (.primitive .float) .virtual .variadic),
  ("CallFloatMethodV", some "_ZN7_JNIEnv16CallFloatMethodVEP8_jobjectP10_jmethodIDPc", .invoke (.primitive .float) .virtual .vaList),
  ("CallFloatMethodA", some "_ZN7_JNIEnv16CallFloatMethodAEP8_jobjectP10_jmethodIDP6jvalue", .invoke (.primitive .float) .virtual .array),
  ("CallDoubleMethod", some "_ZN7_JNIEnv16CallDoubleMethodEP8_jobjectP10_jmethodIDz", .invoke (.primitive .double) .virtual .variadic),
  ("CallDoubleMethodV", some "_ZN7_JNIEnv17CallDoubleMethodVEP8_jobjectP10_jmethodIDPc", .invoke (.primitive .double) .virtual .vaList),
  ("CallDoubleMethodA", some "_ZN7_JNIEnv17CallDoubleMethodAEP8_jobjectP10_jmethodIDP6jvalue", .invoke (.primitive .double) .virtual .array),
  ("CallVoidMethod", some "_ZN7_JNIEnv14CallVoidMethodEP8_jobjectP10_jmethodIDz", .invoke .void .virtual .variadic),
  ("CallVoidMethodV", some "_ZN7_JNIEnv15CallVoidMethodVEP8_jobjectP10_jmethodIDPc", .invoke .void .virtual .vaList),
  ("CallVoidMethodA", some "_ZN7_JNIEnv15CallVoidMethodAEP8_jobjectP10_jmethodIDP6jvalue", .invoke .void .virtual .array),
  ("CallNonvirtualObjectMethod", some "_ZN7_JNIEnv26CallNonvirtualObjectMethodEP8_jobjectP7_jclassP10_jmethodIDz", .invoke .object .nonvirtual .variadic),
  ("CallNonvirtualObjectMethodV", some "_ZN7_JNIEnv27CallNonvirtualObjectMethodVEP8_jobjectP7_jclassP10_jmethodIDPc", .invoke .object .nonvirtual .vaList),
  ("CallNonvirtualObjectMethodA", some "_ZN7_JNIEnv27CallNonvirtualObjectMethodAEP8_jobjectP7_jclassP10_jmethodIDP6jvalue", .invoke .object .nonvirtual .array),
  ("CallNonvirtualBooleanMethod", some "_ZN7_JNIEnv27CallNonvirtualBooleanMethodEP8_jobjectP7_jclassP10_jmethodIDz", .invoke (.primitive .boolean) .nonvirtual .variadic),
  ("CallNonvirtualBooleanMethodV", some "_ZN7_JNIEnv28CallNonvirtualBooleanMethodVEP8_jobjectP7_jclassP10_jmethodIDPc", .invoke (.primitive .boolean) .nonvirtual .vaList),
  ("CallNonvirtualBooleanMethodA", some "_ZN7_JNIEnv28CallNonvirtualBooleanMethodAEP8_jobjectP7_jclassP10_jmethodIDP6jvalue", .invoke (.primitive .boolean) .nonvirtual .array),
  ("CallNonvirtualByteMethod", some "_ZN7_JNIEnv24CallNonvirtualByteMethodEP8_jobjectP7_jclassP10_jmethodIDz", .invoke (.primitive .byte) .nonvirtual .variadic),
  ("CallNonvirtualByteMethodV", some "_ZN7_JNIEnv25CallNonvirtualByteMethodVEP8_jobjectP7_jclassP10_jmethodIDPc", .invoke (.primitive .byte) .nonvirtual .vaList),
  ("CallNonvirtualByteMethodA", some "_ZN7_JNIEnv25CallNonvirtualByteMethodAEP8_jobjectP7_jclassP10_jmethodIDP6jvalue", .invoke (.primitive .byte) .nonvirtual .array),
  ("CallNonvirtualCharMethod", some "_ZN7_JNIEnv24CallNonvirtualCharMethodEP8_jobjectP7_jclassP10_jmethodIDz", .invoke (.primitive .char) .nonvirtual .variadic),
  ("CallNonvirtualCharMethodV", some "_ZN7_JNIEnv25CallNonvirtualCharMethodVEP8_jobjectP7_jclassP10_jmethodIDPc", .invoke (.primitive .char) .nonvirtual .vaList),
  ("CallNonvirtualCharMethodA", some "_ZN7_JNIEnv25CallNonvirtualCharMethodAEP8_jobjectP7_jclassP10_jmethodIDP6jvalue", .invoke (.primitive .char) .nonvirtual .array),
  ("CallNonvirtualShortMethod", some "_ZN7_JNIEnv25CallNonvirtualShortMethodEP8_jobjectP7_jclassP10_jmethodIDz", .invoke (.primitive .short) .nonvirtual .variadic),
  ("CallNonvirtualShortMethodV", some "_ZN7_JNIEnv26CallNonvirtualShortMethodVEP8_jobjectP7_jclassP10_jmethodIDPc", .invoke (.primitive .short) .nonvirtual .vaList),
  ("CallNonvirtualShortMethodA", some "_ZN7_JNIEnv26CallNonvirtualShortMethodAEP8_jobjectP7_jclassP10_jmethodIDP6jvalue", .invoke (.primitive .short) .nonvirtual .array),
  ("CallNonvirtualIntMethod", some "_ZN7_JNIEnv23CallNonvirtualIntMethodEP8_jobjectP7_jclassP10_jmethodIDz", .invoke (.primitive .int) .nonvirtual .variadic),
  ("CallNonvirtualIntMethodV", some "_ZN7_JNIEnv24CallNonvirtualIntMethodVEP8_jobjectP7_jclassP10_jmethodIDPc", .invoke (.primitive .int) .nonvirtual .vaList),
  ("CallNonvirtualIntMethodA", some "_ZN7_JNIEnv24CallNonvirtualIntMethodAEP8_jobjectP7_jclassP10_jmethodIDP6jvalue", .invoke (.primitive .int) .nonvirtual .array),
  ("CallNonvirtualLongMethod", some "_ZN7_JNIEnv24CallNonvirtualLongMethodEP8_jobjectP7_jclassP10_jmethodIDz", .invoke (.primitive .long) .nonvirtual .variadic),
  ("CallNonvirtualLongMethodV", some "_ZN7_JNIEnv25CallNonvirtualLongMethodVEP8_jobjectP7_jclassP10_jmethodIDPc", .invoke (.primitive .long) .nonvirtual .vaList),
  ("CallNonvirtualLongMethodA", some "_ZN7_JNIEnv25CallNonvirtualLongMethodAEP8_jobjectP7_jclassP10_jmethodIDP6jvalue", .invoke (.primitive .long) .nonvirtual .array),
  ("CallNonvirtualFloatMethod", some "_ZN7_JNIEnv25CallNonvirtualFloatMethodEP8_jobjectP7_jclassP10_jmethodIDz", .invoke (.primitive .float) .nonvirtual .variadic),
  ("CallNonvirtualFloatMethodV", some "_ZN7_JNIEnv26CallNonvirtualFloatMethodVEP8_jobjectP7_jclassP10_jmethodIDPc", .invoke (.primitive .float) .nonvirtual .vaList),
  ("CallNonvirtualFloatMethodA", some "_ZN7_JNIEnv26CallNonvirtualFloatMethodAEP8_jobjectP7_jclassP10_jmethodIDP6jvalue", .invoke (.primitive .float) .nonvirtual .array),
  ("CallNonvirtualDoubleMethod", some "_ZN7_JNIEnv26CallNonvirtualDoubleMethodEP8_jobjectP7_jclassP10_jmethodIDz", .invoke (.primitive .double) .nonvirtual .variadic),
  ("CallNonvirtualDoubleMethodV", some "_ZN7_JNIEnv27CallNonvirtualDoubleMethodVEP8_jobjectP7_jclassP10_jmethodIDPc", .invoke (.primitive .double) .nonvirtual .vaList),
  ("CallNonvirtualDoubleMethodA", some "_ZN7_JNIEnv27CallNonvirtualDoubleMethodAEP8_jobjectP7_jclassP10_jmethodIDP6jvalue", .invoke (.primitive .double) .nonvirtual .array),
  ("CallNonvirtualVoidMethod", some "_ZN7_JNIEnv24CallNonvirtualVoidMethodEP8_jobjectP7_jclassP10_jmethodIDz", .invoke .void .nonvirtual .variadic),
  ("CallNonvirtualVoidMethodV", some "_ZN7_JNIEnv25CallNonvirtualVoidMethodVEP8_jobjectP7_jclassP10_jmethodIDPc", .invoke .void .nonvirtual .vaList),
  ("CallNonvirtualVoidMethodA", some "_ZN7_JNIEnv25CallNonvirtualVoidMethodAEP8_jobjectP7_jclassP10_jmethodIDP6jvalue", .invoke .void .nonvirtual .array),
  ("GetFieldID", some "_ZN7_JNIEnv10GetFieldIDEP7_jclassPKcS3_", .fieldId false),
  ("GetObjectField", some "_ZN7_JNIEnv14GetObjectFieldEP8_jobjectP9_jfieldID", .getField .object false),
  ("GetBooleanField", some "_ZN7_JNIEnv15GetBooleanFieldEP8_jobjectP9_jfieldID", .getField (.primitive .boolean) false),
  ("GetByteField", some "_ZN7_JNIEnv12GetByteFieldEP8_jobjectP9_jfieldID", .getField (.primitive .byte) false),
  ("GetCharField", some "_ZN7_JNIEnv12GetCharFieldEP8_jobjectP9_jfieldID", .getField (.primitive .char) false),
  ("GetShortField", some "_ZN7_JNIEnv13GetShortFieldEP8_jobjectP9_jfieldID", .getField (.primitive .short) false),
  ("GetIntField", some "_ZN7_JNIEnv11GetIntFieldEP8_jobjectP9_jfieldID", .getField (.primitive .int) false),
  ("GetLongField", some "_ZN7_JNIEnv12GetLongFieldEP8_jobjectP9_jfieldID", .getField (.primitive .long) false),
  ("GetFloatField", some "_ZN7_JNIEnv13GetFloatFieldEP8_jobjectP9_jfieldID", .getField (.primitive .float) false),
  ("GetDoubleField", some "_ZN7_JNIEnv14GetDoubleFieldEP8_jobjectP9_jfieldID", .getField (.primitive .double) false),
  ("SetObjectField", some "_ZN7_JNIEnv14SetObjectFieldEP8_jobjectP9_jfieldIDS1_", .setField .object false),
  ("SetBooleanField", some "_ZN7_JNIEnv15SetBooleanFieldEP8_jobjectP9_jfieldIDh", .setField (.primitive .boolean) false),
  ("SetByteField", some "_ZN7_JNIEnv12SetByteFieldEP8_jobjectP9_jfieldIDa", .setField (.primitive .byte) false),
  ("SetCharField", some "_ZN7_JNIEnv12SetCharFieldEP8_jobjectP9_jfieldIDt", .setField (.primitive .char) false),
  ("SetShortField", some "_ZN7_JNIEnv13SetShortFieldEP8_jobjectP9_jfieldIDs", .setField (.primitive .short) false),
  ("SetIntField", some "_ZN7_JNIEnv11SetIntFieldEP8_jobjectP9_jfieldIDi", .setField (.primitive .int) false),
  ("SetLongField", some "_ZN7_JNIEnv12SetLongFieldEP8_jobjectP9_jfieldIDx", .setField (.primitive .long) false),
  ("SetFloatField", some "_ZN7_JNIEnv13SetFloatFieldEP8_jobjectP9_jfieldIDf", .setField (.primitive .float) false),
  ("SetDoubleField", some "_ZN7_JNIEnv14SetDoubleFieldEP8_jobjectP9_jfieldIDd", .setField (.primitive .double) false),
  ("GetStaticMethodID", some "_ZN7_JNIEnv17GetStaticMethodIDEP7_jclassPKcS3_", .methodId true),
  ("CallStaticObjectMethod", some "_ZN7_JNIEnv22CallStaticObjectMethodEP7_jclassP10_jmethodIDz", .invoke .object .static .variadic),
  ("CallStaticObjectMethodV", some "_ZN7_JNIEnv23CallStaticObjectMethodVEP7_jclassP10_jmethodIDPc", .invoke .object .static .vaList),
  ("CallStaticObjectMethodA", some "_ZN7_JNIEnv23CallStaticObjectMethodAEP7_jclassP10_jmethodIDP6jvalue", .invoke .object .static .array),
  ("CallStaticBooleanMethod", some "_ZN7_JNIEnv23CallStaticBooleanMethodEP7_jclassP10_jmethodIDz", .invoke (.primitive .boolean) .static .variadic),
  ("CallStaticBooleanMethodV", some "_ZN7_JNIEnv24CallStaticBooleanMethodVEP7_jclassP10_jmethodIDPc", .invoke (.primitive .boolean) .static .vaList),
  ("CallStaticBooleanMethodA", some "_ZN7_JNIEnv24CallStaticBooleanMethodAEP7_jclassP10_jmethodIDP6jvalue", .invoke (.primitive .boolean) .static .array),
  ("CallStaticByteMethod", some "_ZN7_JNIEnv20CallStaticByteMethodEP7_jclassP10_jmethodIDz", .invoke (.primitive .byte) .static .variadic),
  ("CallStaticByteMethodV", some "_ZN7_JNIEnv21CallStaticByteMethodVEP7_jclassP10_jmethodIDPc", .invoke (.primitive .byte) .static .vaList),
  ("CallStaticByteMethodA", some "_ZN7_JNIEnv21CallStaticByteMethodAEP7_jclassP10_jmethodIDP6jvalue", .invoke (.primitive .byte) .static .array),
  ("CallStaticCharMethod", some "_ZN7_JNIEnv20CallStaticCharMethodEP7_jclassP10_jmethodIDz", .invoke (.primitive .char) .static .variadic),
  ("CallStaticCharMethodV", some "_ZN7_JNIEnv21CallStaticCharMethodVEP7_jclassP10_jmethodIDPc", .invoke (.primitive .char) .static .vaList),
  ("CallStaticCharMethodA", some "_ZN7_JNIEnv21CallStaticCharMethodAEP7_jclassP10_jmethodIDP6jvalue", .invoke (.primitive .char) .static .array),
  ("CallStaticShortMethod", some "_ZN7_JNIEnv21CallStaticShortMethodEP7_jclassP10_jmethodIDz", .invoke (.primitive .short) .static .variadic),
  ("CallStaticShortMethodV", some "_ZN7_JNIEnv22CallStaticShortMethodVEP7_jclassP10_jmethodIDPc", .invoke (.primitive .short) .static .vaList),
  ("CallStaticShortMethodA", some "_ZN7_JNIEnv22CallStaticShortMethodAEP7_jclassP10_jmethodIDP6jvalue", .invoke (.primitive .short) .static .array),
  ("CallStaticIntMethod", some "_ZN7_JNIEnv19CallStaticIntMethodEP7_jclassP10_jmethodIDz", .invoke (.primitive .int) .static .variadic),
  ("CallStaticIntMethodV", some "_ZN7_JNIEnv20CallStaticIntMethodVEP7_jclassP10_jmethodIDPc", .invoke (.primitive .int) .static .vaList),
  ("CallStaticIntMethodA", some "_ZN7_JNIEnv20CallStaticIntMethodAEP7_jclassP10_jmethodIDP6jvalue", .invoke (.primitive .int) .static .array),
  ("CallStaticLongMethod", some "_ZN7_JNIEnv20CallStaticLongMethodEP7_jclassP10_jmethodIDz", .invoke (.primitive .long) .static .variadic),
  ("CallStaticLongMethodV", some "_ZN7_JNIEnv21CallStaticLongMethodVEP7_jclassP10_jmethodIDPc", .invoke (.primitive .long) .static .vaList),
  ("CallStaticLongMethodA", some "_ZN7_JNIEnv21CallStaticLongMethodAEP7_jclassP10_jmethodIDP6jvalue", .invoke (.primitive .long) .static .array),
  ("CallStaticFloatMethod", some "_ZN7_JNIEnv21CallStaticFloatMethodEP7_jclassP10_jmethodIDz", .invoke (.primitive .float) .static .variadic),
  ("CallStaticFloatMethodV", some "_ZN7_JNIEnv22CallStaticFloatMethodVEP7_jclassP10_jmethodIDPc", .invoke (.primitive .float) .static .vaList),
  ("CallStaticFloatMethodA", some "_ZN7_JNIEnv22CallStaticFloatMethodAEP7_jclassP10_jmethodIDP6jvalue", .invoke (.primitive .float) .static .array),
  ("CallStaticDoubleMethod", some "_ZN7_JNIEnv22CallStaticDoubleMethodEP7_jclassP10_jmethodIDz", .invoke (.primitive .double) .static .variadic),
  ("CallStaticDoubleMethodV", some "_ZN7_JNIEnv23CallStaticDoubleMethodVEP7_jclassP10_jmethodIDPc", .invoke (.primitive .double) .static .vaList),
  ("CallStaticDoubleMethodA", some "_ZN7_JNIEnv23CallStaticDoubleMethodAEP7_jclassP10_jmethodIDP6jvalue", .invoke (.primitive .double) .static .array),
  ("CallStaticVoidMethod", some "_ZN7_JNIEnv20CallStaticVoidMethodEP7_jclassP10_jmethodIDz", .invoke .void .static .variadic),
  ("CallStaticVoidMethodV", some "_ZN7_JNIEnv21CallStaticVoidMethodVEP7_jclassP10_jmethodIDPc", .invoke .void .static .vaList),
  ("CallStaticVoidMethodA", some "_ZN7_JNIEnv21CallStaticVoidMethodAEP7_jclassP10_jmethodIDP6jvalue", .invoke .void .static .array),
  ("GetStaticFieldID", some "_ZN7_JNIEnv16GetStaticFieldIDEP7_jclassPKcS3_", .fieldId true),
  ("GetStaticObjectField", some "_ZN7_JNIEnv20GetStaticObjectFieldEP7_jclassP9_jfieldID", .getField .object true),
  ("GetStaticBooleanField", some "_ZN7_JNIEnv21GetStaticBooleanFieldEP7_jclassP9_jfieldID", .getField (.primitive .boolean) true),
  ("GetStaticByteField", some "_ZN7_JNIEnv18GetStaticByteFieldEP7_jclassP9_jfieldID", .getField (.primitive .byte) true),
  ("GetStaticCharField", some "_ZN7_JNIEnv18GetStaticCharFieldEP7_jclassP9_jfieldID", .getField (.primitive .char) true),
  ("GetStaticShortField", some "_ZN7_JNIEnv19GetStaticShortFieldEP7_jclassP9_jfieldID", .getField (.primitive .short) true),
  ("GetStaticIntField", some "_ZN7_JNIEnv17GetStaticIntFieldEP7_jclassP9_jfieldID", .getField (.primitive .int) true),
  ("GetStaticLongField", some "_ZN7_JNIEnv18GetStaticLongFieldEP7_jclassP9_jfieldID", .getField (.primitive .long) true),
  ("GetStaticFloatField", some "_ZN7_JNIEnv19GetStaticFloatFieldEP7_jclassP9_jfieldID", .getField (.primitive .float) true),
  ("GetStaticDoubleField", some "_ZN7_JNIEnv20GetStaticDoubleFieldEP7_jclassP9_jfieldID", .getField (.primitive .double) true),
  ("SetStaticObjectField", some "_ZN7_JNIEnv20SetStaticObjectFieldEP7_jclassP9_jfieldIDP8_jobject", .setField .object true),
  ("SetStaticBooleanField", some "_ZN7_JNIEnv21SetStaticBooleanFieldEP7_jclassP9_jfieldIDh", .setField (.primitive .boolean) true),
  ("SetStaticByteField", some "_ZN7_JNIEnv18SetStaticByteFieldEP7_jclassP9_jfieldIDa", .setField (.primitive .byte) true),
  ("SetStaticCharField", some "_ZN7_JNIEnv18SetStaticCharFieldEP7_jclassP9_jfieldIDt", .setField (.primitive .char) true),
  ("SetStaticShortField", some "_ZN7_JNIEnv19SetStaticShortFieldEP7_jclassP9_jfieldIDs", .setField (.primitive .short) true),
  ("SetStaticIntField", some "_ZN7_JNIEnv17SetStaticIntFieldEP7_jclassP9_jfieldIDi", .setField (.primitive .int) true),
  ("SetStaticLongField", some "_ZN7_JNIEnv18SetStaticLongFieldEP7_jclassP9_jfieldIDx", .setField (.primitive .long) true),
  ("SetStaticFloatField", some "_ZN7_JNIEnv19SetStaticFloatFieldEP7_jclassP9_jfieldIDf", .setField (.primitive .float) true),
  ("SetStaticDoubleField", some "_ZN7_JNIEnv20SetStaticDoubleFieldEP7_jclassP9_jfieldIDd", .setField (.primitive .double) true),
  ("NewString", some "_ZN7_JNIEnv9NewStringEPKti", .newString),
  ("GetStringLength", some "_ZN7_JNIEnv15GetStringLengthEP8_jstring", .length),
  ("GetStringChars", some "_ZN7_JNIEnv14GetStringCharsEP8_jstringPh", .storage),
  ("ReleaseStringChars", some "_ZN7_JNIEnv18ReleaseStringCharsEP8_jstringPKt", .unconstrained .void),
  ("NewStringUTF", some "_ZN7_JNIEnv12NewStringUTFEPKc", .newStringUtf),
  ("GetStringUTFLength", some "_ZN7_JNIEnv18GetStringUTFLengthEP8_jstring", .length),
  ("GetStringUTFChars", some "_ZN7_JNIEnv17GetStringUTFCharsEP8_jstringPh", .storage),
  ("ReleaseStringUTFChars", some "_ZN7_JNIEnv21ReleaseStringUTFCharsEP8_jstringPKc", .unconstrained .void),
  ("GetArrayLength", some "_ZN7_JNIEnv14GetArrayLengthEP7_jarray", .length),
  ("NewObjectArray", some "_ZN7_JNIEnv14NewObjectArrayEiP7_jclassP8_jobject", .newObjectArray),
  ("GetObjectArrayElement", some "_ZN7_JNIEnv21GetObjectArrayElementEP13_jobjectArrayi", .arrayElement),
  ("SetObjectArrayElement", some "_ZN7_JNIEnv21SetObjectArrayElementEP13_jobjectArrayiP8_jobject", .unconstrained .void),
  ("NewBooleanArray", some "_ZN7_JNIEnv15NewBooleanArrayEi", .newPrimitiveArray .boolean),
  ("NewByteArray", some "_ZN7_JNIEnv12NewByteArrayEi", .newPrimitiveArray .byte),
  ("NewCharArray", some "_ZN7_JNIEnv12NewCharArrayEi", .newPrimitiveArray .char),
  ("NewShortArray", some "_ZN7_JNIEnv13NewShortArrayEi", .newPrimitiveArray .short),
  ("NewIntArray", some "_ZN7_JNIEnv11NewIntArrayEi", .newPrimitiveArray .int),
  ("NewLongArray", some "_ZN7_JNIEnv12NewLongArrayEi", .newPrimitiveArray .long),
  ("NewFloatArray", some "_ZN7_JNIEnv13NewFloatArrayEi", .newPrimitiveArray .float),
  ("NewDoubleArray", some "_ZN7_JNIEnv14NewDoubleArrayEi", .newPrimitiveArray .double),
  ("GetBooleanArrayElements", some "_ZN7_JNIEnv23GetBooleanArrayElementsEP14_jbooleanArrayPh", .storage),
  ("GetByteArrayElements", some "_ZN7_JNIEnv20GetByteArrayElementsEP11_jbyteArrayPh", .storage),
  ("GetCharArrayElements", some "_ZN7_JNIEnv20GetCharArrayElementsEP11_jcharArrayPh", .storage),
  ("GetShortArrayElements", some "_ZN7_JNIEnv21GetShortArrayElementsEP12_jshortArrayPh", .storage),
  ("GetIntArrayElements", some "_ZN7_JNIEnv19GetIntArrayElementsEP10_jintArrayPh", .storage),
  ("GetLongArrayElements", some "_ZN7_JNIEnv20GetLongArrayElementsEP11_jlongArrayPh", .storage),
  ("GetFloatArrayElements", some "_ZN7_JNIEnv21GetFloatArrayElementsEP12_jfloatArrayPh", .storage),
  ("GetDoubleArrayElements", some "_ZN7_JNIEnv22GetDoubleArrayElementsEP13_jdoubleArrayPh", .storage),
  ("ReleaseBooleanArrayElements", some "_ZN7_JNIEnv27ReleaseBooleanArrayElementsEP14_jbooleanArrayPhi", .unconstrained .void),
  ("ReleaseByteArrayElements", some "_ZN7_JNIEnv24ReleaseByteArrayElementsEP11_jbyteArrayPai", .unconstrained .void),
  ("ReleaseCharArrayElements", some "_ZN7_JNIEnv24ReleaseCharArrayElementsEP11_jcharArrayPti", .unconstrained .void),
  ("ReleaseShortArrayElements", some "_ZN7_JNIEnv25ReleaseShortArrayElementsEP12_jshortArrayPsi", .unconstrained .void),
  ("ReleaseIntArrayElements", some "_ZN7_JNIEnv23ReleaseIntArrayElementsEP10_jintArrayPii", .unconstrained .void),
  ("ReleaseLongArrayElements", some "_ZN7_JNIEnv24ReleaseLongArrayElementsEP11_jlongArrayPxi", .unconstrained .void),
  ("ReleaseFloatArrayElements", some "_ZN7_JNIEnv25ReleaseFloatArrayElementsEP12_jfloatArrayPfi", .unconstrained .void),
  ("ReleaseDoubleArrayElements", some "_ZN7_JNIEnv26ReleaseDoubleArrayElementsEP13_jdoubleArrayPdi", .unconstrained .void),
  ("GetBooleanArrayRegion", some "_ZN7_JNIEnv21GetBooleanArrayRegionEP14_jbooleanArrayiiPh", .unconstrained .void),
  ("GetByteArrayRegion", some "_ZN7_JNIEnv18GetByteArrayRegionEP11_jbyteArrayiiPa", .unconstrained .void),
  ("GetCharArrayRegion", some "_ZN7_JNIEnv18GetCharArrayRegionEP11_jcharArrayiiPt", .unconstrained .void),
  ("GetShortArrayRegion", some "_ZN7_JNIEnv19GetShortArrayRegionEP12_jshortArrayiiPs", .unconstrained .void),
  ("GetIntArrayRegion", some "_ZN7_JNIEnv17GetIntArrayRegionEP10_jintArrayiiPi", .unconstrained .void),
  ("GetLongArrayRegion", some "_ZN7_JNIEnv18GetLongArrayRegionEP11_jlongArrayiiPx", .unconstrained .void),
  ("GetFloatArrayRegion", some "_ZN7_JNIEnv19GetFloatArrayRegionEP12_jfloatArrayiiPf", .unconstrained .void),
  ("GetDoubleArrayRegion", some "_ZN7_JNIEnv20GetDoubleArrayRegionEP13_jdoubleArrayiiPd", .unconstrained .void),
  ("SetBooleanArrayRegion", some "_ZN7_JNIEnv21SetBooleanArrayRegionEP14_jbooleanArrayiiPKh", .unconstrained .void),
  ("SetByteArrayRegion", some "_ZN7_JNIEnv18SetByteArrayRegionEP11_jbyteArrayiiPKa", .unconstrained .void),
  ("SetCharArrayRegion", some "_ZN7_JNIEnv18SetCharArrayRegionEP11_jcharArrayiiPKt", .unconstrained .void),
  ("SetShortArrayRegion", some "_ZN7_JNIEnv19SetShortArrayRegionEP12_jshortArrayiiPKs", .unconstrained .void),
  ("SetIntArrayRegion", some "_ZN7_JNIEnv17SetIntArrayRegionEP10_jintArrayiiPKi", .unconstrained .void),
  ("SetLongArrayRegion", some "_ZN7_JNIEnv18SetLongArrayRegionEP11_jlongArrayiiPKx", .unconstrained .void),
  ("SetFloatArrayRegion", some "_ZN7_JNIEnv19SetFloatArrayRegionEP12_jfloatArrayiiPKf", .unconstrained .void),
  ("SetDoubleArrayRegion", some "_ZN7_JNIEnv20SetDoubleArrayRegionEP13_jdoubleArrayiiPKd", .unconstrained .void),
  ("RegisterNatives", some "_ZN7_JNIEnv15RegisterNativesEP7_jclassPK15JNINativeMethodi", .registerNatives),
  ("UnregisterNatives", some "_ZN7_JNIEnv17UnregisterNativesEP7_jclass", .unregisterNatives),
  ("MonitorEnter", some "_ZN7_JNIEnv12MonitorEnterEP8_jobject", .unconstrained (.primitive .int)),
  ("MonitorExit", some "_ZN7_JNIEnv11MonitorExitEP8_jobject", .unconstrained (.primitive .int)),
  ("GetJavaVM", some "_ZN7_JNIEnv9GetJavaVMEPP7_JavaVM", .unconstrained (.primitive .int)),
  ("GetStringRegion", some "_ZN7_JNIEnv15GetStringRegionEP8_jstringiiPt", .unconstrained .void),
  ("GetStringUTFRegion", some "_ZN7_JNIEnv18GetStringUTFRegionEP8_jstringiiPc", .unconstrained .void),
  ("GetPrimitiveArrayCritical", some "_ZN7_JNIEnv25GetPrimitiveArrayCriticalEP7_jarrayPh", .storage),
  ("ReleasePrimitiveArrayCritical", some "_ZN7_JNIEnv29ReleasePrimitiveArrayCriticalEP7_jarrayPvi", .unconstrained .void),
  ("GetStringCritical", some "_ZN7_JNIEnv17GetStringCriticalEP8_jstringPh", .storage),
  ("ReleaseStringCritical", some "_ZN7_JNIEnv21ReleaseStringCriticalEP8_jstringPKt", .unconstrained .void),
  ("NewWeakGlobalRef", some "_ZN7_JNIEnv16NewWeakGlobalRefEP8_jobject", .newReference),
  ("DeleteWeakGlobalRef", some "_ZN7_JNIEnv19DeleteWeakGlobalRefEP8_jobject", .unconstrained .void),
  ("ExceptionCheck", some "_ZN7_JNIEnv14ExceptionCheckEv", .unconstrained (.primitive .boolean)),
  ("NewDirectByteBuffer", some "_ZN7_JNIEnv19NewDirectByteBufferEPvx", .unconstrained .object),
  ("GetDirectBufferAddress", some "_ZN7_JNIEnv22GetDirectBufferAddressEP8_jobject", .unconstrained .object),
  ("GetDirectBufferCapacity", some "_ZN7_JNIEnv23GetDirectBufferCapacityEP8_jobject", .unconstrained (.primitive .long)),
  ("GetObjectRefType", some "_ZN7_JNIEnv16GetObjectRefTypeEP8_jobject", .unconstrained (.primitive .int))]

/-- The functions of the interface. -/
def functions : List Function :=
  rows.mapIdx fun slot (name, symbol, behaviour) => { slot, name, symbol, behaviour }

/-- The function in a slot. -/
def ofSlot? (slot : Nat) : Option Function := functions[slot]?

/-- An older spelling of a function's name, and the spelling in the table. -/
def spelling (name : String) : String :=
  if name = "GetSuperClass" then "GetSuperclass" else name

/-- The function with a name. -/
def ofName? (name : String) : Option Function :=
  functions.find? (·.name = spelling name)

/-- The function with a linker symbol. -/
def ofSymbol? (symbol : String) : Option Function :=
  functions.find? (·.symbol = some symbol)

end NativeFlow.Interface
