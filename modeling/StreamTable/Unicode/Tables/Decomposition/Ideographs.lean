import StreamTable.Unicode.Image

/-! The full compatibility decompositions of the compatibility ideographs, U+F900 to U+FAFF. -/

namespace StreamTable.Unicode

set_option maxRecDepth 100000 in
def ideographDecompositions : RangeMap Image :=
  .node (.node (.node (.node (.node (.node (.node (.node (.node .leaf 0xF900 0xF900 (.sequence
  [0x8C48]) .leaf) 0xF901 0xF901 (.sequence [0x66F4]) (.node .leaf 0xF902 0xF902 (.sequence
  [0x8ECA]) .leaf)) 0xF903 0xF903 (.sequence [0x8CC8]) (.node (.node .leaf 0xF904 0xF904
  (.sequence [0x6ED1]) .leaf) 0xF905 0xF905 (.sequence [0x4E32]) (.node .leaf 0xF906 0xF906
  (.sequence [0x53E5]) .leaf))) 0xF907 0xF907 (.sequence [0x9F9C]) (.node (.node (.node .leaf
  0xF908 0xF908 (.sequence [0x9F9C]) .leaf) 0xF909 0xF909 (.sequence [0x5951]) (.node .leaf
  0xF90A 0xF90A (.sequence [0x91D1]) .leaf)) 0xF90B 0xF90B (.sequence [0x5587]) (.node (.node
  .leaf 0xF90C 0xF90C (.sequence [0x5948]) .leaf) 0xF90D 0xF90D (.sequence [0x61F6]) .leaf)))
  0xF90E 0xF90E (.sequence [0x7669]) (.node (.node (.node (.node .leaf 0xF90F 0xF90F
  (.sequence [0x7F85]) .leaf) 0xF910 0xF910 (.sequence [0x863F]) (.node .leaf 0xF911 0xF911
  (.sequence [0x87BA]) .leaf)) 0xF912 0xF912 (.sequence [0x88F8]) (.node (.node .leaf 0xF913
  0xF913 (.sequence [0x908F]) .leaf) 0xF914 0xF914 (.sequence [0x6A02]) .leaf)) 0xF915 0xF915
  (.sequence [0x6D1B]) (.node (.node (.node .leaf 0xF916 0xF916 (.sequence [0x70D9]) .leaf)
  0xF917 0xF917 (.sequence [0x73DE]) (.node .leaf 0xF918 0xF918 (.sequence [0x843D]) .leaf))
  0xF919 0xF919 (.sequence [0x916A]) (.node (.node .leaf 0xF91A 0xF91A (.sequence [0x99F1])
  .leaf) 0xF91B 0xF91B (.sequence [0x4E82]) .leaf)))) 0xF91C 0xF91C (.sequence [0x5375])
  (.node (.node (.node (.node (.node .leaf 0xF91D 0xF91D (.sequence [0x6B04]) .leaf) 0xF91E
  0xF91E (.sequence [0x721B]) (.node .leaf 0xF91F 0xF91F (.sequence [0x862D]) .leaf)) 0xF920
  0xF920 (.sequence [0x9E1E]) (.node (.node .leaf 0xF921 0xF921 (.sequence [0x5D50]) .leaf)
  0xF922 0xF922 (.sequence [0x6FEB]) (.node .leaf 0xF923 0xF923 (.sequence [0x85CD]) .leaf)))
  0xF924 0xF924 (.sequence [0x8964]) (.node (.node (.node .leaf 0xF925 0xF925 (.sequence
  [0x62C9]) .leaf) 0xF926 0xF926 (.sequence [0x81D8]) (.node .leaf 0xF927 0xF927 (.sequence
  [0x881F]) .leaf)) 0xF928 0xF928 (.sequence [0x5ECA]) (.node (.node .leaf 0xF929 0xF929
  (.sequence [0x6717]) .leaf) 0xF92A 0xF92A (.sequence [0x6D6A]) .leaf))) 0xF92B 0xF92B
  (.sequence [0x72FC]) (.node (.node (.node (.node .leaf 0xF92C 0xF92C (.sequence [0x90CE])
  .leaf) 0xF92D 0xF92D (.sequence [0x4F86]) (.node .leaf 0xF92E 0xF92E (.sequence [0x51B7])
  .leaf)) 0xF92F 0xF92F (.sequence [0x52DE]) (.node (.node .leaf 0xF930 0xF930 (.sequence
  [0x64C4]) .leaf) 0xF931 0xF931 (.sequence [0x6AD3]) .leaf)) 0xF932 0xF932 (.sequence
  [0x7210]) (.node (.node (.node .leaf 0xF933 0xF933 (.sequence [0x76E7]) .leaf) 0xF934 0xF934
  (.sequence [0x8001]) (.node .leaf 0xF935 0xF935 (.sequence [0x8606]) .leaf)) 0xF936 0xF936
  (.sequence [0x865C]) (.node (.node .leaf 0xF937 0xF937 (.sequence [0x8DEF]) .leaf) 0xF938
  0xF938 (.sequence [0x9732]) .leaf))))) 0xF939 0xF939 (.sequence [0x9B6F]) (.node (.node
  (.node (.node (.node (.node .leaf 0xF93A 0xF93A (.sequence [0x9DFA]) .leaf) 0xF93B 0xF93B
  (.sequence [0x788C]) (.node .leaf 0xF93C 0xF93C (.sequence [0x797F]) .leaf)) 0xF93D 0xF93D
  (.sequence [0x7DA0]) (.node (.node .leaf 0xF93E 0xF93E (.sequence [0x83C9]) .leaf) 0xF93F
  0xF93F (.sequence [0x9304]) (.node .leaf 0xF940 0xF940 (.sequence [0x9E7F]) .leaf))) 0xF941
  0xF941 (.sequence [0x8AD6]) (.node (.node (.node .leaf 0xF942 0xF942 (.sequence [0x58DF])
  .leaf) 0xF943 0xF943 (.sequence [0x5F04]) (.node .leaf 0xF944 0xF944 (.sequence [0x7C60])
  .leaf)) 0xF945 0xF945 (.sequence [0x807E]) (.node (.node .leaf 0xF946 0xF946 (.sequence
  [0x7262]) .leaf) 0xF947 0xF947 (.sequence [0x78CA]) .leaf))) 0xF948 0xF948 (.sequence
  [0x8CC2]) (.node (.node (.node (.node .leaf 0xF949 0xF949 (.sequence [0x96F7]) .leaf) 0xF94A
  0xF94A (.sequence [0x58D8]) (.node .leaf 0xF94B 0xF94B (.sequence [0x5C62]) .leaf)) 0xF94C
  0xF94C (.sequence [0x6A13]) (.node (.node .leaf 0xF94D 0xF94D (.sequence [0x6DDA]) .leaf)
  0xF94E 0xF94E (.sequence [0x6F0F]) .leaf)) 0xF94F 0xF94F (.sequence [0x7D2F]) (.node (.node
  (.node .leaf 0xF950 0xF950 (.sequence [0x7E37]) .leaf) 0xF951 0xF951 (.sequence [0x964B])
  (.node .leaf 0xF952 0xF952 (.sequence [0x52D2]) .leaf)) 0xF953 0xF953 (.sequence [0x808B])
  (.node (.node .leaf 0xF954 0xF954 (.sequence [0x51DC]) .leaf) 0xF955 0xF955 (.sequence
  [0x51CC]) .leaf)))) 0xF956 0xF956 (.sequence [0x7A1C]) (.node (.node (.node (.node (.node
  .leaf 0xF957 0xF957 (.sequence [0x7DBE]) .leaf) 0xF958 0xF958 (.sequence [0x83F1]) (.node
  .leaf 0xF959 0xF959 (.sequence [0x9675]) .leaf)) 0xF95A 0xF95A (.sequence [0x8B80]) (.node
  (.node .leaf 0xF95B 0xF95B (.sequence [0x62CF]) .leaf) 0xF95C 0xF95C (.sequence [0x6A02])
  .leaf)) 0xF95D 0xF95D (.sequence [0x8AFE]) (.node (.node (.node .leaf 0xF95E 0xF95E
  (.sequence [0x4E39]) .leaf) 0xF95F 0xF95F (.sequence [0x5BE7]) (.node .leaf 0xF960 0xF960
  (.sequence [0x6012]) .leaf)) 0xF961 0xF961 (.sequence [0x7387]) (.node (.node .leaf 0xF962
  0xF962 (.sequence [0x7570]) .leaf) 0xF963 0xF963 (.sequence [0x5317]) .leaf))) 0xF964 0xF964
  (.sequence [0x78FB]) (.node (.node (.node (.node .leaf 0xF965 0xF965 (.sequence [0x4FBF])
  .leaf) 0xF966 0xF966 (.sequence [0x5FA9]) (.node .leaf 0xF967 0xF967 (.sequence [0x4E0D])
  .leaf)) 0xF968 0xF968 (.sequence [0x6CCC]) (.node (.node .leaf 0xF969 0xF969 (.sequence
  [0x6578]) .leaf) 0xF96A 0xF96A (.sequence [0x7D22]) .leaf)) 0xF96B 0xF96B (.sequence
  [0x53C3]) (.node (.node (.node .leaf 0xF96C 0xF96C (.sequence [0x585E]) .leaf) 0xF96D 0xF96D
  (.sequence [0x7701]) (.node .leaf 0xF96E 0xF96E (.sequence [0x8449]) .leaf)) 0xF96F 0xF96F
  (.sequence [0x8AAA]) (.node (.node .leaf 0xF970 0xF970 (.sequence [0x6BBA]) .leaf) 0xF971
  0xF971 (.sequence [0x8FB0]) .leaf)))))) 0xF972 0xF972 (.sequence [0x6C88]) (.node (.node
  (.node (.node (.node (.node (.node .leaf 0xF973 0xF973 (.sequence [0x62FE]) .leaf) 0xF974
  0xF974 (.sequence [0x82E5]) (.node .leaf 0xF975 0xF975 (.sequence [0x63A0]) .leaf)) 0xF976
  0xF976 (.sequence [0x7565]) (.node (.node .leaf 0xF977 0xF977 (.sequence [0x4EAE]) .leaf)
  0xF978 0xF978 (.sequence [0x5169]) (.node .leaf 0xF979 0xF979 (.sequence [0x51C9]) .leaf)))
  0xF97A 0xF97A (.sequence [0x6881]) (.node (.node (.node .leaf 0xF97B 0xF97B (.sequence
  [0x7CE7]) .leaf) 0xF97C 0xF97C (.sequence [0x826F]) (.node .leaf 0xF97D 0xF97D (.sequence
  [0x8AD2]) .leaf)) 0xF97E 0xF97E (.sequence [0x91CF]) (.node (.node .leaf 0xF97F 0xF97F
  (.sequence [0x52F5]) .leaf) 0xF980 0xF980 (.sequence [0x5442]) .leaf))) 0xF981 0xF981
  (.sequence [0x5973]) (.node (.node (.node (.node .leaf 0xF982 0xF982 (.sequence [0x5EEC])
  .leaf) 0xF983 0xF983 (.sequence [0x65C5]) (.node .leaf 0xF984 0xF984 (.sequence [0x6FFE])
  .leaf)) 0xF985 0xF985 (.sequence [0x792A]) (.node (.node .leaf 0xF986 0xF986 (.sequence
  [0x95AD]) .leaf) 0xF987 0xF987 (.sequence [0x9A6A]) .leaf)) 0xF988 0xF988 (.sequence
  [0x9E97]) (.node (.node (.node .leaf 0xF989 0xF989 (.sequence [0x9ECE]) .leaf) 0xF98A 0xF98A
  (.sequence [0x529B]) (.node .leaf 0xF98B 0xF98B (.sequence [0x66C6]) .leaf)) 0xF98C 0xF98C
  (.sequence [0x6B77]) (.node (.node .leaf 0xF98D 0xF98D (.sequence [0x8F62]) .leaf) 0xF98E
  0xF98E (.sequence [0x5E74]) .leaf)))) 0xF98F 0xF98F (.sequence [0x6190]) (.node (.node
  (.node (.node (.node .leaf 0xF990 0xF990 (.sequence [0x6200]) .leaf) 0xF991 0xF991
  (.sequence [0x649A]) (.node .leaf 0xF992 0xF992 (.sequence [0x6F23]) .leaf)) 0xF993 0xF993
  (.sequence [0x7149]) (.node (.node .leaf 0xF994 0xF994 (.sequence [0x7489]) .leaf) 0xF995
  0xF995 (.sequence [0x79CA]) (.node .leaf 0xF996 0xF996 (.sequence [0x7DF4]) .leaf))) 0xF997
  0xF997 (.sequence [0x806F]) (.node (.node (.node .leaf 0xF998 0xF998 (.sequence [0x8F26])
  .leaf) 0xF999 0xF999 (.sequence [0x84EE]) (.node .leaf 0xF99A 0xF99A (.sequence [0x9023])
  .leaf)) 0xF99B 0xF99B (.sequence [0x934A]) (.node (.node .leaf 0xF99C 0xF99C (.sequence
  [0x5217]) .leaf) 0xF99D 0xF99D (.sequence [0x52A3]) .leaf))) 0xF99E 0xF99E (.sequence
  [0x54BD]) (.node (.node (.node (.node .leaf 0xF99F 0xF99F (.sequence [0x70C8]) .leaf) 0xF9A0
  0xF9A0 (.sequence [0x88C2]) (.node .leaf 0xF9A1 0xF9A1 (.sequence [0x8AAA]) .leaf)) 0xF9A2
  0xF9A2 (.sequence [0x5EC9]) (.node (.node .leaf 0xF9A3 0xF9A3 (.sequence [0x5FF5]) .leaf)
  0xF9A4 0xF9A4 (.sequence [0x637B]) .leaf)) 0xF9A5 0xF9A5 (.sequence [0x6BAE]) (.node (.node
  (.node .leaf 0xF9A6 0xF9A6 (.sequence [0x7C3E]) .leaf) 0xF9A7 0xF9A7 (.sequence [0x7375])
  (.node .leaf 0xF9A8 0xF9A8 (.sequence [0x4EE4]) .leaf)) 0xF9A9 0xF9A9 (.sequence [0x56F9])
  (.node (.node .leaf 0xF9AA 0xF9AA (.sequence [0x5BE7]) .leaf) 0xF9AB 0xF9AB (.sequence
  [0x5DBA]) .leaf))))) 0xF9AC 0xF9AC (.sequence [0x601C]) (.node (.node (.node (.node (.node
  (.node .leaf 0xF9AD 0xF9AD (.sequence [0x73B2]) .leaf) 0xF9AE 0xF9AE (.sequence [0x7469])
  (.node .leaf 0xF9AF 0xF9AF (.sequence [0x7F9A]) .leaf)) 0xF9B0 0xF9B0 (.sequence [0x8046])
  (.node (.node .leaf 0xF9B1 0xF9B1 (.sequence [0x9234]) .leaf) 0xF9B2 0xF9B2 (.sequence
  [0x96F6]) (.node .leaf 0xF9B3 0xF9B3 (.sequence [0x9748]) .leaf))) 0xF9B4 0xF9B4 (.sequence
  [0x9818]) (.node (.node (.node .leaf 0xF9B5 0xF9B5 (.sequence [0x4F8B]) .leaf) 0xF9B6 0xF9B6
  (.sequence [0x79AE]) (.node .leaf 0xF9B7 0xF9B7 (.sequence [0x91B4]) .leaf)) 0xF9B8 0xF9B8
  (.sequence [0x96B8]) (.node (.node .leaf 0xF9B9 0xF9B9 (.sequence [0x60E1]) .leaf) 0xF9BA
  0xF9BA (.sequence [0x4E86]) .leaf))) 0xF9BB 0xF9BB (.sequence [0x50DA]) (.node (.node (.node
  (.node .leaf 0xF9BC 0xF9BC (.sequence [0x5BEE]) .leaf) 0xF9BD 0xF9BD (.sequence [0x5C3F])
  (.node .leaf 0xF9BE 0xF9BE (.sequence [0x6599]) .leaf)) 0xF9BF 0xF9BF (.sequence [0x6A02])
  (.node (.node .leaf 0xF9C0 0xF9C0 (.sequence [0x71CE]) .leaf) 0xF9C1 0xF9C1 (.sequence
  [0x7642]) .leaf)) 0xF9C2 0xF9C2 (.sequence [0x84FC]) (.node (.node (.node .leaf 0xF9C3
  0xF9C3 (.sequence [0x907C]) .leaf) 0xF9C4 0xF9C4 (.sequence [0x9F8D]) (.node .leaf 0xF9C5
  0xF9C5 (.sequence [0x6688]) .leaf)) 0xF9C6 0xF9C6 (.sequence [0x962E]) (.node (.node .leaf
  0xF9C7 0xF9C7 (.sequence [0x5289]) .leaf) 0xF9C8 0xF9C8 (.sequence [0x677B]) .leaf))))
  0xF9C9 0xF9C9 (.sequence [0x67F3]) (.node (.node (.node (.node (.node .leaf 0xF9CA 0xF9CA
  (.sequence [0x6D41]) .leaf) 0xF9CB 0xF9CB (.sequence [0x6E9C]) (.node .leaf 0xF9CC 0xF9CC
  (.sequence [0x7409]) .leaf)) 0xF9CD 0xF9CD (.sequence [0x7559]) (.node (.node .leaf 0xF9CE
  0xF9CE (.sequence [0x786B]) .leaf) 0xF9CF 0xF9CF (.sequence [0x7D10]) .leaf)) 0xF9D0 0xF9D0
  (.sequence [0x985E]) (.node (.node (.node .leaf 0xF9D1 0xF9D1 (.sequence [0x516D]) .leaf)
  0xF9D2 0xF9D2 (.sequence [0x622E]) (.node .leaf 0xF9D3 0xF9D3 (.sequence [0x9678]) .leaf))
  0xF9D4 0xF9D4 (.sequence [0x502B]) (.node (.node .leaf 0xF9D5 0xF9D5 (.sequence [0x5D19])
  .leaf) 0xF9D6 0xF9D6 (.sequence [0x6DEA]) .leaf))) 0xF9D7 0xF9D7 (.sequence [0x8F2A]) (.node
  (.node (.node (.node .leaf 0xF9D8 0xF9D8 (.sequence [0x5F8B]) .leaf) 0xF9D9 0xF9D9
  (.sequence [0x6144]) (.node .leaf 0xF9DA 0xF9DA (.sequence [0x6817]) .leaf)) 0xF9DB 0xF9DB
  (.sequence [0x7387]) (.node (.node .leaf 0xF9DC 0xF9DC (.sequence [0x9686]) .leaf) 0xF9DD
  0xF9DD (.sequence [0x5229]) .leaf)) 0xF9DE 0xF9DE (.sequence [0x540F]) (.node (.node (.node
  .leaf 0xF9DF 0xF9DF (.sequence [0x5C65]) .leaf) 0xF9E0 0xF9E0 (.sequence [0x6613]) (.node
  .leaf 0xF9E1 0xF9E1 (.sequence [0x674E]) .leaf)) 0xF9E2 0xF9E2 (.sequence [0x68A8]) (.node
  (.node .leaf 0xF9E3 0xF9E3 (.sequence [0x6CE5]) .leaf) 0xF9E4 0xF9E4 (.sequence [0x7406])
  .leaf))))))) 0xF9E5 0xF9E5 (.sequence [0x75E2]) (.node (.node (.node (.node (.node (.node
  (.node (.node .leaf 0xF9E6 0xF9E6 (.sequence [0x7F79]) .leaf) 0xF9E7 0xF9E7 (.sequence
  [0x88CF]) (.node .leaf 0xF9E8 0xF9E8 (.sequence [0x88E1]) .leaf)) 0xF9E9 0xF9E9 (.sequence
  [0x91CC]) (.node (.node .leaf 0xF9EA 0xF9EA (.sequence [0x96E2]) .leaf) 0xF9EB 0xF9EB
  (.sequence [0x533F]) (.node .leaf 0xF9EC 0xF9EC (.sequence [0x6EBA]) .leaf))) 0xF9ED 0xF9ED
  (.sequence [0x541D]) (.node (.node (.node .leaf 0xF9EE 0xF9EE (.sequence [0x71D0]) .leaf)
  0xF9EF 0xF9EF (.sequence [0x7498]) (.node .leaf 0xF9F0 0xF9F0 (.sequence [0x85FA]) .leaf))
  0xF9F1 0xF9F1 (.sequence [0x96A3]) (.node (.node .leaf 0xF9F2 0xF9F2 (.sequence [0x9C57])
  .leaf) 0xF9F3 0xF9F3 (.sequence [0x9E9F]) .leaf))) 0xF9F4 0xF9F4 (.sequence [0x6797]) (.node
  (.node (.node (.node .leaf 0xF9F5 0xF9F5 (.sequence [0x6DCB]) .leaf) 0xF9F6 0xF9F6
  (.sequence [0x81E8]) (.node .leaf 0xF9F7 0xF9F7 (.sequence [0x7ACB]) .leaf)) 0xF9F8 0xF9F8
  (.sequence [0x7B20]) (.node (.node .leaf 0xF9F9 0xF9F9 (.sequence [0x7C92]) .leaf) 0xF9FA
  0xF9FA (.sequence [0x72C0]) .leaf)) 0xF9FB 0xF9FB (.sequence [0x7099]) (.node (.node (.node
  .leaf 0xF9FC 0xF9FC (.sequence [0x8B58]) .leaf) 0xF9FD 0xF9FD (.sequence [0x4EC0]) (.node
  .leaf 0xF9FE 0xF9FE (.sequence [0x8336]) .leaf)) 0xF9FF 0xF9FF (.sequence [0x523A]) (.node
  (.node .leaf 0xFA00 0xFA00 (.sequence [0x5207]) .leaf) 0xFA01 0xFA01 (.sequence [0x5EA6])
  .leaf)))) 0xFA02 0xFA02 (.sequence [0x62D3]) (.node (.node (.node (.node (.node .leaf 0xFA03
  0xFA03 (.sequence [0x7CD6]) .leaf) 0xFA04 0xFA04 (.sequence [0x5B85]) (.node .leaf 0xFA05
  0xFA05 (.sequence [0x6D1E]) .leaf)) 0xFA06 0xFA06 (.sequence [0x66B4]) (.node (.node .leaf
  0xFA07 0xFA07 (.sequence [0x8F3B]) .leaf) 0xFA08 0xFA08 (.sequence [0x884C]) (.node .leaf
  0xFA09 0xFA09 (.sequence [0x964D]) .leaf))) 0xFA0A 0xFA0A (.sequence [0x898B]) (.node (.node
  (.node .leaf 0xFA0B 0xFA0B (.sequence [0x5ED3]) .leaf) 0xFA0C 0xFA0C (.sequence [0x5140])
  (.node .leaf 0xFA0D 0xFA0D (.sequence [0x55C0]) .leaf)) 0xFA10 0xFA10 (.sequence [0x585A])
  (.node (.node .leaf 0xFA12 0xFA12 (.sequence [0x6674]) .leaf) 0xFA15 0xFA15 (.sequence
  [0x51DE]) .leaf))) 0xFA16 0xFA16 (.sequence [0x732A]) (.node (.node (.node (.node .leaf
  0xFA17 0xFA17 (.sequence [0x76CA]) .leaf) 0xFA18 0xFA18 (.sequence [0x793C]) (.node .leaf
  0xFA19 0xFA19 (.sequence [0x795E]) .leaf)) 0xFA1A 0xFA1A (.sequence [0x7965]) (.node (.node
  .leaf 0xFA1B 0xFA1B (.sequence [0x798F]) .leaf) 0xFA1C 0xFA1C (.sequence [0x9756]) .leaf))
  0xFA1D 0xFA1D (.sequence [0x7CBE]) (.node (.node (.node .leaf 0xFA1E 0xFA1E (.sequence
  [0x7FBD]) .leaf) 0xFA20 0xFA20 (.sequence [0x8612]) (.node .leaf 0xFA22 0xFA22 (.sequence
  [0x8AF8]) .leaf)) 0xFA25 0xFA25 (.sequence [0x9038]) (.node (.node .leaf 0xFA26 0xFA26
  (.sequence [0x90FD]) .leaf) 0xFA2A 0xFA2A (.sequence [0x98EF]) .leaf))))) 0xFA2B 0xFA2B
  (.sequence [0x98FC]) (.node (.node (.node (.node (.node (.node .leaf 0xFA2C 0xFA2C
  (.sequence [0x9928]) .leaf) 0xFA2D 0xFA2D (.sequence [0x9DB4]) (.node .leaf 0xFA2E 0xFA2E
  (.sequence [0x90DE]) .leaf)) 0xFA2F 0xFA2F (.sequence [0x96B7]) (.node (.node .leaf 0xFA30
  0xFA30 (.sequence [0x4FAE]) .leaf) 0xFA31 0xFA31 (.sequence [0x50E7]) (.node .leaf 0xFA32
  0xFA32 (.sequence [0x514D]) .leaf))) 0xFA33 0xFA33 (.sequence [0x52C9]) (.node (.node (.node
  .leaf 0xFA34 0xFA34 (.sequence [0x52E4]) .leaf) 0xFA35 0xFA35 (.sequence [0x5351]) (.node
  .leaf 0xFA36 0xFA36 (.sequence [0x559D]) .leaf)) 0xFA37 0xFA37 (.sequence [0x5606]) (.node
  (.node .leaf 0xFA38 0xFA38 (.sequence [0x5668]) .leaf) 0xFA39 0xFA39 (.sequence [0x5840])
  .leaf))) 0xFA3A 0xFA3A (.sequence [0x58A8]) (.node (.node (.node (.node .leaf 0xFA3B 0xFA3B
  (.sequence [0x5C64]) .leaf) 0xFA3C 0xFA3C (.sequence [0x5C6E]) (.node .leaf 0xFA3D 0xFA3D
  (.sequence [0x6094]) .leaf)) 0xFA3E 0xFA3E (.sequence [0x6168]) (.node (.node .leaf 0xFA3F
  0xFA3F (.sequence [0x618E]) .leaf) 0xFA40 0xFA40 (.sequence [0x61F2]) .leaf)) 0xFA41 0xFA41
  (.sequence [0x654F]) (.node (.node (.node .leaf 0xFA42 0xFA42 (.sequence [0x65E2]) .leaf)
  0xFA43 0xFA43 (.sequence [0x6691]) (.node .leaf 0xFA44 0xFA44 (.sequence [0x6885]) .leaf))
  0xFA45 0xFA45 (.sequence [0x6D77]) (.node (.node .leaf 0xFA46 0xFA46 (.sequence [0x6E1A])
  .leaf) 0xFA47 0xFA47 (.sequence [0x6F22]) .leaf)))) 0xFA48 0xFA48 (.sequence [0x716E])
  (.node (.node (.node (.node (.node .leaf 0xFA49 0xFA49 (.sequence [0x722B]) .leaf) 0xFA4A
  0xFA4A (.sequence [0x7422]) (.node .leaf 0xFA4B 0xFA4B (.sequence [0x7891]) .leaf)) 0xFA4C
  0xFA4C (.sequence [0x793E]) (.node (.node .leaf 0xFA4D 0xFA4D (.sequence [0x7949]) .leaf)
  0xFA4E 0xFA4E (.sequence [0x7948]) .leaf)) 0xFA4F 0xFA4F (.sequence [0x7950]) (.node (.node
  (.node .leaf 0xFA50 0xFA50 (.sequence [0x7956]) .leaf) 0xFA51 0xFA51 (.sequence [0x795D])
  (.node .leaf 0xFA52 0xFA53 (.consecutive 0x798D) .leaf)) 0xFA54 0xFA54 (.sequence [0x7A40])
  (.node (.node .leaf 0xFA55 0xFA55 (.sequence [0x7A81]) .leaf) 0xFA56 0xFA56 (.sequence
  [0x7BC0]) .leaf))) 0xFA57 0xFA57 (.sequence [0x7DF4]) (.node (.node (.node (.node .leaf
  0xFA58 0xFA58 (.sequence [0x7E09]) .leaf) 0xFA59 0xFA59 (.sequence [0x7E41]) (.node .leaf
  0xFA5A 0xFA5A (.sequence [0x7F72]) .leaf)) 0xFA5B 0xFA5B (.sequence [0x8005]) (.node (.node
  .leaf 0xFA5C 0xFA5C (.sequence [0x81ED]) .leaf) 0xFA5D 0xFA5D (.sequence [0x8279]) .leaf))
  0xFA5E 0xFA5E (.sequence [0x8279]) (.node (.node (.node .leaf 0xFA5F 0xFA5F (.sequence
  [0x8457]) .leaf) 0xFA60 0xFA60 (.sequence [0x8910]) (.node .leaf 0xFA61 0xFA61 (.sequence
  [0x8996]) .leaf)) 0xFA62 0xFA62 (.sequence [0x8B01]) (.node (.node .leaf 0xFA63 0xFA63
  (.sequence [0x8B39]) .leaf) 0xFA64 0xFA64 (.sequence [0x8CD3]) .leaf)))))) 0xFA65 0xFA65
  (.sequence [0x8D08]) (.node (.node (.node (.node (.node (.node (.node .leaf 0xFA66 0xFA66
  (.sequence [0x8FB6]) .leaf) 0xFA67 0xFA67 (.sequence [0x9038]) (.node .leaf 0xFA68 0xFA68
  (.sequence [0x96E3]) .leaf)) 0xFA69 0xFA69 (.sequence [0x97FF]) (.node (.node .leaf 0xFA6A
  0xFA6A (.sequence [0x983B]) .leaf) 0xFA6B 0xFA6B (.sequence [0x6075]) (.node .leaf 0xFA6C
  0xFA6C (.sequence [0x242EE]) .leaf))) 0xFA6D 0xFA6D (.sequence [0x8218]) (.node (.node
  (.node .leaf 0xFA70 0xFA70 (.sequence [0x4E26]) .leaf) 0xFA71 0xFA71 (.sequence [0x51B5])
  (.node .leaf 0xFA72 0xFA72 (.sequence [0x5168]) .leaf)) 0xFA73 0xFA73 (.sequence [0x4F80])
  (.node (.node .leaf 0xFA74 0xFA74 (.sequence [0x5145]) .leaf) 0xFA75 0xFA75 (.sequence
  [0x5180]) .leaf))) 0xFA76 0xFA76 (.sequence [0x52C7]) (.node (.node (.node (.node .leaf
  0xFA77 0xFA77 (.sequence [0x52FA]) .leaf) 0xFA78 0xFA78 (.sequence [0x559D]) (.node .leaf
  0xFA79 0xFA79 (.sequence [0x5555]) .leaf)) 0xFA7A 0xFA7A (.sequence [0x5599]) (.node (.node
  .leaf 0xFA7B 0xFA7B (.sequence [0x55E2]) .leaf) 0xFA7C 0xFA7C (.sequence [0x585A]) .leaf))
  0xFA7D 0xFA7D (.sequence [0x58B3]) (.node (.node (.node .leaf 0xFA7E 0xFA7E (.sequence
  [0x5944]) .leaf) 0xFA7F 0xFA7F (.sequence [0x5954]) (.node .leaf 0xFA80 0xFA80 (.sequence
  [0x5A62]) .leaf)) 0xFA81 0xFA81 (.sequence [0x5B28]) (.node (.node .leaf 0xFA82 0xFA82
  (.sequence [0x5ED2]) .leaf) 0xFA83 0xFA83 (.sequence [0x5ED9]) .leaf)))) 0xFA84 0xFA84
  (.sequence [0x5F69]) (.node (.node (.node (.node (.node .leaf 0xFA85 0xFA85 (.sequence
  [0x5FAD]) .leaf) 0xFA86 0xFA86 (.sequence [0x60D8]) (.node .leaf 0xFA87 0xFA87 (.sequence
  [0x614E]) .leaf)) 0xFA88 0xFA88 (.sequence [0x6108]) (.node (.node .leaf 0xFA89 0xFA89
  (.sequence [0x618E]) .leaf) 0xFA8A 0xFA8A (.sequence [0x6160]) (.node .leaf 0xFA8B 0xFA8B
  (.sequence [0x61F2]) .leaf))) 0xFA8C 0xFA8C (.sequence [0x6234]) (.node (.node (.node .leaf
  0xFA8D 0xFA8D (.sequence [0x63C4]) .leaf) 0xFA8E 0xFA8E (.sequence [0x641C]) (.node .leaf
  0xFA8F 0xFA8F (.sequence [0x6452]) .leaf)) 0xFA90 0xFA90 (.sequence [0x6556]) (.node (.node
  .leaf 0xFA91 0xFA91 (.sequence [0x6674]) .leaf) 0xFA92 0xFA92 (.sequence [0x6717]) .leaf)))
  0xFA93 0xFA93 (.sequence [0x671B]) (.node (.node (.node (.node .leaf 0xFA94 0xFA94
  (.sequence [0x6756]) .leaf) 0xFA95 0xFA95 (.sequence [0x6B79]) (.node .leaf 0xFA96 0xFA96
  (.sequence [0x6BBA]) .leaf)) 0xFA97 0xFA97 (.sequence [0x6D41]) (.node (.node .leaf 0xFA98
  0xFA98 (.sequence [0x6EDB]) .leaf) 0xFA99 0xFA99 (.sequence [0x6ECB]) .leaf)) 0xFA9A 0xFA9A
  (.sequence [0x6F22]) (.node (.node (.node .leaf 0xFA9B 0xFA9B (.sequence [0x701E]) .leaf)
  0xFA9C 0xFA9C (.sequence [0x716E]) (.node .leaf 0xFA9D 0xFA9D (.sequence [0x77A7]) .leaf))
  0xFA9E 0xFA9E (.sequence [0x7235]) (.node (.node .leaf 0xFA9F 0xFA9F (.sequence [0x72AF])
  .leaf) 0xFAA0 0xFAA0 (.sequence [0x732A]) .leaf))))) 0xFAA1 0xFAA1 (.sequence [0x7471])
  (.node (.node (.node (.node (.node (.node .leaf 0xFAA2 0xFAA2 (.sequence [0x7506]) .leaf)
  0xFAA3 0xFAA3 (.sequence [0x753B]) (.node .leaf 0xFAA4 0xFAA4 (.sequence [0x761D]) .leaf))
  0xFAA5 0xFAA5 (.sequence [0x761F]) (.node (.node .leaf 0xFAA6 0xFAA6 (.sequence [0x76CA])
  .leaf) 0xFAA7 0xFAA7 (.sequence [0x76DB]) (.node .leaf 0xFAA8 0xFAA8 (.sequence [0x76F4])
  .leaf))) 0xFAA9 0xFAA9 (.sequence [0x774A]) (.node (.node (.node .leaf 0xFAAA 0xFAAA
  (.sequence [0x7740]) .leaf) 0xFAAB 0xFAAB (.sequence [0x78CC]) (.node .leaf 0xFAAC 0xFAAC
  (.sequence [0x7AB1]) .leaf)) 0xFAAD 0xFAAD (.sequence [0x7BC0]) (.node (.node .leaf 0xFAAE
  0xFAAE (.sequence [0x7C7B]) .leaf) 0xFAAF 0xFAAF (.sequence [0x7D5B]) .leaf))) 0xFAB0 0xFAB0
  (.sequence [0x7DF4]) (.node (.node (.node (.node .leaf 0xFAB1 0xFAB1 (.sequence [0x7F3E])
  .leaf) 0xFAB2 0xFAB2 (.sequence [0x8005]) (.node .leaf 0xFAB3 0xFAB3 (.sequence [0x8352])
  .leaf)) 0xFAB4 0xFAB4 (.sequence [0x83EF]) (.node (.node .leaf 0xFAB5 0xFAB5 (.sequence
  [0x8779]) .leaf) 0xFAB6 0xFAB6 (.sequence [0x8941]) .leaf)) 0xFAB7 0xFAB7 (.sequence
  [0x8986]) (.node (.node (.node .leaf 0xFAB8 0xFAB8 (.sequence [0x8996]) .leaf) 0xFAB9 0xFAB9
  (.sequence [0x8ABF]) (.node .leaf 0xFABA 0xFABA (.sequence [0x8AF8]) .leaf)) 0xFABB 0xFABB
  (.sequence [0x8ACB]) (.node (.node .leaf 0xFABC 0xFABC (.sequence [0x8B01]) .leaf) 0xFABD
  0xFABD (.sequence [0x8AFE]) .leaf)))) 0xFABE 0xFABE (.sequence [0x8AED]) (.node (.node
  (.node (.node (.node .leaf 0xFABF 0xFABF (.sequence [0x8B39]) .leaf) 0xFAC0 0xFAC0
  (.sequence [0x8B8A]) (.node .leaf 0xFAC1 0xFAC1 (.sequence [0x8D08]) .leaf)) 0xFAC2 0xFAC2
  (.sequence [0x8F38]) (.node (.node .leaf 0xFAC3 0xFAC3 (.sequence [0x9072]) .leaf) 0xFAC4
  0xFAC4 (.sequence [0x9199]) .leaf)) 0xFAC5 0xFAC5 (.sequence [0x9276]) (.node (.node (.node
  .leaf 0xFAC6 0xFAC6 (.sequence [0x967C]) .leaf) 0xFAC7 0xFAC7 (.sequence [0x96E3]) (.node
  .leaf 0xFAC8 0xFAC8 (.sequence [0x9756]) .leaf)) 0xFAC9 0xFAC9 (.sequence [0x97DB]) (.node
  (.node .leaf 0xFACA 0xFACA (.sequence [0x97FF]) .leaf) 0xFACB 0xFACB (.sequence [0x980B])
  .leaf))) 0xFACC 0xFACC (.sequence [0x983B]) (.node (.node (.node (.node .leaf 0xFACD 0xFACD
  (.sequence [0x9B12]) .leaf) 0xFACE 0xFACE (.sequence [0x9F9C]) (.node .leaf 0xFACF 0xFACF
  (.sequence [0x2284A]) .leaf)) 0xFAD0 0xFAD0 (.sequence [0x22844]) (.node (.node .leaf 0xFAD1
  0xFAD1 (.sequence [0x233D5]) .leaf) 0xFAD2 0xFAD2 (.sequence [0x3B9D]) .leaf)) 0xFAD3 0xFAD3
  (.sequence [0x4018]) (.node (.node (.node .leaf 0xFAD4 0xFAD4 (.sequence [0x4039]) .leaf)
  0xFAD5 0xFAD5 (.sequence [0x25249]) (.node .leaf 0xFAD6 0xFAD6 (.sequence [0x25CD0]) .leaf))
  0xFAD7 0xFAD7 (.sequence [0x27ED3]) (.node (.node .leaf 0xFAD8 0xFAD8 (.sequence [0x9F43])
  .leaf) 0xFAD9 0xFAD9 (.sequence [0x9F8E]) .leaf)))))))

end StreamTable.Unicode
