import StreamTable.Unicode.Image

/-! The full compatibility decompositions of the supplementary compatibility ideographs, from U+2F800. -/

namespace StreamTable.Unicode

set_option maxRecDepth 100000 in
def supplementaryIdeographDecompositions : RangeMap Image :=
  .node (.node (.node (.node (.node (.node (.node (.node (.node (.node .leaf 0x2F800 0x2F800
  (.sequence [0x4E3D]) .leaf) 0x2F801 0x2F801 (.sequence [0x4E38]) .leaf) 0x2F802 0x2F802
  (.sequence [0x4E41]) (.node .leaf 0x2F803 0x2F803 (.sequence [0x20122]) .leaf)) 0x2F804
  0x2F804 (.sequence [0x4F60]) (.node (.node .leaf 0x2F805 0x2F805 (.sequence [0x4FAE]) .leaf)
  0x2F806 0x2F806 (.sequence [0x4FBB]) (.node .leaf 0x2F807 0x2F807 (.sequence [0x5002]) .leaf)))
  0x2F808 0x2F808 (.sequence [0x507A]) (.node (.node (.node .leaf 0x2F809 0x2F809 (.sequence
  [0x5099]) .leaf) 0x2F80A 0x2F80A (.sequence [0x50E7]) (.node .leaf 0x2F80B 0x2F80B
  (.sequence [0x50CF]) .leaf)) 0x2F80C 0x2F80C (.sequence [0x349E]) (.node (.node .leaf
  0x2F80D 0x2F80D (.sequence [0x2063A]) .leaf) 0x2F80E 0x2F80E (.sequence [0x514D]) (.node
  .leaf 0x2F80F 0x2F80F (.sequence [0x5154]) .leaf)))) 0x2F810 0x2F810 (.sequence [0x5164])
  (.node (.node (.node (.node (.node .leaf 0x2F811 0x2F811 (.sequence [0x5177]) .leaf) 0x2F812
  0x2F812 (.sequence [0x2051C]) .leaf) 0x2F813 0x2F813 (.sequence [0x34B9]) (.node .leaf
  0x2F814 0x2F814 (.sequence [0x5167]) .leaf)) 0x2F815 0x2F815 (.sequence [0x518D]) (.node
  (.node .leaf 0x2F816 0x2F816 (.sequence [0x2054B]) .leaf) 0x2F817 0x2F817 (.sequence
  [0x5197]) (.node .leaf 0x2F818 0x2F818 (.sequence [0x51A4]) .leaf))) 0x2F819 0x2F819
  (.sequence [0x4ECC]) (.node (.node (.node .leaf 0x2F81A 0x2F81A (.sequence [0x51AC]) .leaf)
  0x2F81B 0x2F81B (.sequence [0x51B5]) (.node .leaf 0x2F81C 0x2F81C (.sequence [0x291DF])
  .leaf)) 0x2F81D 0x2F81D (.sequence [0x51F5]) (.node (.node .leaf 0x2F81E 0x2F81E (.sequence
  [0x5203]) .leaf) 0x2F81F 0x2F81F (.sequence [0x34DF]) (.node .leaf 0x2F820 0x2F820
  (.sequence [0x523B]) .leaf))))) 0x2F821 0x2F821 (.sequence [0x5246]) (.node (.node (.node
  (.node (.node (.node .leaf 0x2F822 0x2F822 (.sequence [0x5272]) .leaf) 0x2F823 0x2F823
  (.sequence [0x5277]) .leaf) 0x2F824 0x2F824 (.sequence [0x3515]) (.node .leaf 0x2F825
  0x2F825 (.sequence [0x52C7]) .leaf)) 0x2F826 0x2F826 (.sequence [0x52C9]) (.node (.node
  .leaf 0x2F827 0x2F827 (.sequence [0x52E4]) .leaf) 0x2F828 0x2F828 (.sequence [0x52FA])
  (.node .leaf 0x2F829 0x2F82A (.consecutive 0x5305) .leaf))) 0x2F82B 0x2F82B (.sequence
  [0x5317]) (.node (.node (.node .leaf 0x2F82C 0x2F82C (.sequence [0x5349]) .leaf) 0x2F82D
  0x2F82D (.sequence [0x5351]) (.node .leaf 0x2F82E 0x2F82E (.sequence [0x535A]) .leaf))
  0x2F82F 0x2F82F (.sequence [0x5373]) (.node (.node .leaf 0x2F830 0x2F830 (.sequence [0x537D])
  .leaf) 0x2F831 0x2F831 (.sequence [0x537F]) (.node .leaf 0x2F832 0x2F832 (.sequence [0x537F])
  .leaf)))) 0x2F833 0x2F833 (.sequence [0x537F]) (.node (.node (.node (.node (.node .leaf
  0x2F834 0x2F834 (.sequence [0x20A2C]) .leaf) 0x2F835 0x2F835 (.sequence [0x7070]) .leaf)
  0x2F836 0x2F836 (.sequence [0x53CA]) (.node .leaf 0x2F837 0x2F837 (.sequence [0x53DF]) .leaf))
  0x2F838 0x2F838 (.sequence [0x20B63]) (.node (.node .leaf 0x2F839 0x2F839 (.sequence
  [0x53EB]) .leaf) 0x2F83A 0x2F83A (.sequence [0x53F1]) (.node .leaf 0x2F83B 0x2F83B
  (.sequence [0x5406]) .leaf))) 0x2F83C 0x2F83C (.sequence [0x549E]) (.node (.node (.node
  .leaf 0x2F83D 0x2F83D (.sequence [0x5438]) .leaf) 0x2F83E 0x2F83E (.sequence [0x5448])
  (.node .leaf 0x2F83F 0x2F83F (.sequence [0x5468]) .leaf)) 0x2F840 0x2F840 (.sequence
  [0x54A2]) (.node (.node .leaf 0x2F841 0x2F841 (.sequence [0x54F6]) .leaf) 0x2F842 0x2F842
  (.sequence [0x5510]) (.node .leaf 0x2F843 0x2F843 (.sequence [0x5553]) .leaf)))))) 0x2F844
  0x2F844 (.sequence [0x5563]) (.node (.node (.node (.node (.node (.node (.node .leaf 0x2F845
  0x2F845 (.sequence [0x5584]) .leaf) 0x2F846 0x2F846 (.sequence [0x5584]) .leaf) 0x2F847
  0x2F847 (.sequence [0x5599]) (.node .leaf 0x2F848 0x2F848 (.sequence [0x55AB]) .leaf))
  0x2F849 0x2F849 (.sequence [0x55B3]) (.node (.node .leaf 0x2F84A 0x2F84A (.sequence [0x55C2])
  .leaf) 0x2F84B 0x2F84B (.sequence [0x5716]) (.node .leaf 0x2F84C 0x2F84C (.sequence [0x5606])
  .leaf))) 0x2F84D 0x2F84D (.sequence [0x5717]) (.node (.node (.node .leaf 0x2F84E 0x2F84E
  (.sequence [0x5651]) .leaf) 0x2F84F 0x2F84F (.sequence [0x5674]) (.node .leaf 0x2F850
  0x2F850 (.sequence [0x5207]) .leaf)) 0x2F851 0x2F851 (.sequence [0x58EE]) (.node (.node
  .leaf 0x2F852 0x2F852 (.sequence [0x57CE]) .leaf) 0x2F853 0x2F853 (.sequence [0x57F4])
  (.node .leaf 0x2F854 0x2F854 (.sequence [0x580D]) .leaf)))) 0x2F855 0x2F855 (.sequence
  [0x578B]) (.node (.node (.node (.node (.node .leaf 0x2F856 0x2F856 (.sequence [0x5832])
  .leaf) 0x2F857 0x2F857 (.sequence [0x5831]) .leaf) 0x2F858 0x2F858 (.sequence [0x58AC])
  (.node .leaf 0x2F859 0x2F859 (.sequence [0x214E4]) .leaf)) 0x2F85A 0x2F85A (.sequence
  [0x58F2]) (.node (.node .leaf 0x2F85B 0x2F85B (.sequence [0x58F7]) .leaf) 0x2F85C 0x2F85C
  (.sequence [0x5906]) (.node .leaf 0x2F85D 0x2F85D (.sequence [0x591A]) .leaf))) 0x2F85E
  0x2F85E (.sequence [0x5922]) (.node (.node (.node .leaf 0x2F85F 0x2F85F (.sequence [0x5962])
  .leaf) 0x2F860 0x2F860 (.sequence [0x216A8]) (.node .leaf 0x2F861 0x2F861 (.sequence
  [0x216EA]) .leaf)) 0x2F862 0x2F862 (.sequence [0x59EC]) (.node (.node .leaf 0x2F863 0x2F863
  (.sequence [0x5A1B]) .leaf) 0x2F864 0x2F864 (.sequence [0x5A27]) (.node .leaf 0x2F865
  0x2F865 (.sequence [0x59D8]) .leaf))))) 0x2F866 0x2F866 (.sequence [0x5A66]) (.node (.node
  (.node (.node (.node (.node .leaf 0x2F867 0x2F867 (.sequence [0x36EE]) .leaf) 0x2F868
  0x2F868 (.sequence [0x36FC]) .leaf) 0x2F869 0x2F869 (.sequence [0x5B08]) (.node .leaf
  0x2F86A 0x2F86A (.sequence [0x5B3E]) .leaf)) 0x2F86B 0x2F86B (.sequence [0x5B3E]) (.node
  (.node .leaf 0x2F86C 0x2F86C (.sequence [0x219C8]) .leaf) 0x2F86D 0x2F86D (.sequence
  [0x5BC3]) (.node .leaf 0x2F86E 0x2F86E (.sequence [0x5BD8]) .leaf))) 0x2F86F 0x2F86F
  (.sequence [0x5BE7]) (.node (.node (.node .leaf 0x2F870 0x2F870 (.sequence [0x5BF3]) .leaf)
  0x2F871 0x2F871 (.sequence [0x21B18]) (.node .leaf 0x2F872 0x2F872 (.sequence [0x5BFF])
  .leaf)) 0x2F873 0x2F873 (.sequence [0x5C06]) (.node (.node .leaf 0x2F874 0x2F874 (.sequence
  [0x5F53]) .leaf) 0x2F875 0x2F875 (.sequence [0x5C22]) (.node .leaf 0x2F876 0x2F876
  (.sequence [0x3781]) .leaf)))) 0x2F877 0x2F877 (.sequence [0x5C60]) (.node (.node (.node
  (.node .leaf 0x2F878 0x2F878 (.sequence [0x5C6E]) .leaf) 0x2F879 0x2F879 (.sequence [0x5CC0])
  (.node .leaf 0x2F87A 0x2F87A (.sequence [0x5C8D]) .leaf)) 0x2F87B 0x2F87B (.sequence
  [0x21DE4]) (.node (.node .leaf 0x2F87C 0x2F87C (.sequence [0x5D43]) .leaf) 0x2F87D 0x2F87D
  (.sequence [0x21DE6]) (.node .leaf 0x2F87E 0x2F87E (.sequence [0x5D6E]) .leaf))) 0x2F87F
  0x2F87F (.sequence [0x5D6B]) (.node (.node (.node .leaf 0x2F880 0x2F880 (.sequence [0x5D7C])
  .leaf) 0x2F881 0x2F882 (.consecutive 0x5DE1) (.node .leaf 0x2F883 0x2F883 (.sequence
  [0x382F]) .leaf)) 0x2F884 0x2F884 (.sequence [0x5DFD]) (.node (.node .leaf 0x2F885 0x2F885
  (.sequence [0x5E28]) .leaf) 0x2F886 0x2F886 (.sequence [0x5E3D]) (.node .leaf 0x2F887
  0x2F887 (.sequence [0x5E69]) .leaf))))))) 0x2F888 0x2F888 (.sequence [0x3862]) (.node (.node
  (.node (.node (.node (.node (.node (.node .leaf 0x2F889 0x2F889 (.sequence [0x22183]) .leaf)
  0x2F88A 0x2F88A (.sequence [0x387C]) .leaf) 0x2F88B 0x2F88B (.sequence [0x5EB0]) (.node
  .leaf 0x2F88C 0x2F88C (.sequence [0x5EB3]) .leaf)) 0x2F88D 0x2F88D (.sequence [0x5EB6])
  (.node (.node .leaf 0x2F88E 0x2F88E (.sequence [0x5ECA]) .leaf) 0x2F88F 0x2F88F (.sequence
  [0x2A392]) (.node .leaf 0x2F890 0x2F890 (.sequence [0x5EFE]) .leaf))) 0x2F891 0x2F891
  (.sequence [0x22331]) (.node (.node (.node .leaf 0x2F892 0x2F892 (.sequence [0x22331]) .leaf)
  0x2F893 0x2F893 (.sequence [0x8201]) (.node .leaf 0x2F894 0x2F894 (.sequence [0x5F22]) .leaf))
  0x2F895 0x2F895 (.sequence [0x5F22]) (.node (.node .leaf 0x2F896 0x2F896 (.sequence [0x38C7])
  .leaf) 0x2F897 0x2F897 (.sequence [0x232B8]) (.node .leaf 0x2F898 0x2F898 (.sequence
  [0x261DA]) .leaf)))) 0x2F899 0x2F899 (.sequence [0x5F62]) (.node (.node (.node (.node (.node
  .leaf 0x2F89A 0x2F89A (.sequence [0x5F6B]) .leaf) 0x2F89B 0x2F89B (.sequence [0x38E3]) .leaf)
  0x2F89C 0x2F89C (.sequence [0x5F9A]) (.node .leaf 0x2F89D 0x2F89D (.sequence [0x5FCD]) .leaf))
  0x2F89E 0x2F89E (.sequence [0x5FD7]) (.node (.node .leaf 0x2F89F 0x2F89F (.sequence [0x5FF9])
  .leaf) 0x2F8A0 0x2F8A0 (.sequence [0x6081]) (.node .leaf 0x2F8A1 0x2F8A1 (.sequence [0x393A])
  .leaf))) 0x2F8A2 0x2F8A2 (.sequence [0x391C]) (.node (.node (.node .leaf 0x2F8A3 0x2F8A3
  (.sequence [0x6094]) .leaf) 0x2F8A4 0x2F8A4 (.sequence [0x226D4]) (.node .leaf 0x2F8A5
  0x2F8A5 (.sequence [0x60C7]) .leaf)) 0x2F8A6 0x2F8A6 (.sequence [0x6148]) (.node (.node
  .leaf 0x2F8A7 0x2F8A7 (.sequence [0x614C]) .leaf) 0x2F8A8 0x2F8A8 (.sequence [0x614E])
  (.node .leaf 0x2F8A9 0x2F8A9 (.sequence [0x614C]) .leaf))))) 0x2F8AA 0x2F8AA (.sequence
  [0x617A]) (.node (.node (.node (.node (.node (.node .leaf 0x2F8AB 0x2F8AB (.sequence
  [0x618E]) .leaf) 0x2F8AC 0x2F8AC (.sequence [0x61B2]) .leaf) 0x2F8AD 0x2F8AD (.sequence
  [0x61A4]) (.node .leaf 0x2F8AE 0x2F8AE (.sequence [0x61AF]) .leaf)) 0x2F8AF 0x2F8AF
  (.sequence [0x61DE]) (.node (.node .leaf 0x2F8B0 0x2F8B0 (.sequence [0x61F2]) .leaf) 0x2F8B1
  0x2F8B1 (.sequence [0x61F6]) (.node .leaf 0x2F8B2 0x2F8B2 (.sequence [0x6210]) .leaf)))
  0x2F8B3 0x2F8B3 (.sequence [0x621B]) (.node (.node (.node .leaf 0x2F8B4 0x2F8B4 (.sequence
  [0x625D]) .leaf) 0x2F8B5 0x2F8B5 (.sequence [0x62B1]) (.node .leaf 0x2F8B6 0x2F8B6
  (.sequence [0x62D4]) .leaf)) 0x2F8B7 0x2F8B7 (.sequence [0x6350]) (.node (.node .leaf
  0x2F8B8 0x2F8B8 (.sequence [0x22B0C]) .leaf) 0x2F8B9 0x2F8B9 (.sequence [0x633D]) (.node
  .leaf 0x2F8BA 0x2F8BA (.sequence [0x62FC]) .leaf)))) 0x2F8BB 0x2F8BB (.sequence [0x6368])
  (.node (.node (.node (.node .leaf 0x2F8BC 0x2F8BC (.sequence [0x6383]) .leaf) 0x2F8BD
  0x2F8BD (.sequence [0x63E4]) (.node .leaf 0x2F8BE 0x2F8BE (.sequence [0x22BF1]) .leaf))
  0x2F8BF 0x2F8BF (.sequence [0x6422]) (.node (.node .leaf 0x2F8C0 0x2F8C0 (.sequence [0x63C5])
  .leaf) 0x2F8C1 0x2F8C1 (.sequence [0x63A9]) (.node .leaf 0x2F8C2 0x2F8C2 (.sequence [0x3A2E])
  .leaf))) 0x2F8C3 0x2F8C3 (.sequence [0x6469]) (.node (.node (.node .leaf 0x2F8C4 0x2F8C4
  (.sequence [0x647E]) .leaf) 0x2F8C5 0x2F8C5 (.sequence [0x649D]) (.node .leaf 0x2F8C6
  0x2F8C6 (.sequence [0x6477]) .leaf)) 0x2F8C7 0x2F8C7 (.sequence [0x3A6C]) (.node (.node
  .leaf 0x2F8C8 0x2F8C8 (.sequence [0x654F]) .leaf) 0x2F8C9 0x2F8C9 (.sequence [0x656C])
  (.node .leaf 0x2F8CA 0x2F8CA (.sequence [0x2300A]) .leaf)))))) 0x2F8CB 0x2F8CB (.sequence
  [0x65E3]) (.node (.node (.node (.node (.node (.node (.node .leaf 0x2F8CC 0x2F8CC (.sequence
  [0x66F8]) .leaf) 0x2F8CD 0x2F8CD (.sequence [0x6649]) .leaf) 0x2F8CE 0x2F8CE (.sequence
  [0x3B19]) (.node .leaf 0x2F8CF 0x2F8CF (.sequence [0x6691]) .leaf)) 0x2F8D0 0x2F8D0
  (.sequence [0x3B08]) (.node (.node .leaf 0x2F8D1 0x2F8D1 (.sequence [0x3AE4]) .leaf) 0x2F8D2
  0x2F8D2 (.sequence [0x5192]) (.node .leaf 0x2F8D3 0x2F8D3 (.sequence [0x5195]) .leaf)))
  0x2F8D4 0x2F8D4 (.sequence [0x6700]) (.node (.node (.node .leaf 0x2F8D5 0x2F8D5 (.sequence
  [0x669C]) .leaf) 0x2F8D6 0x2F8D6 (.sequence [0x80AD]) (.node .leaf 0x2F8D7 0x2F8D7
  (.sequence [0x43D9]) .leaf)) 0x2F8D8 0x2F8D8 (.sequence [0x6717]) (.node (.node .leaf
  0x2F8D9 0x2F8D9 (.sequence [0x671B]) .leaf) 0x2F8DA 0x2F8DA (.sequence [0x6721]) (.node
  .leaf 0x2F8DB 0x2F8DB (.sequence [0x675E]) .leaf)))) 0x2F8DC 0x2F8DC (.sequence [0x6753])
  (.node (.node (.node (.node (.node .leaf 0x2F8DD 0x2F8DD (.sequence [0x233C3]) .leaf)
  0x2F8DE 0x2F8DE (.sequence [0x3B49]) .leaf) 0x2F8DF 0x2F8DF (.sequence [0x67FA]) (.node
  .leaf 0x2F8E0 0x2F8E0 (.sequence [0x6785]) .leaf)) 0x2F8E1 0x2F8E1 (.sequence [0x6852])
  (.node (.node .leaf 0x2F8E2 0x2F8E2 (.sequence [0x6885]) .leaf) 0x2F8E3 0x2F8E3 (.sequence
  [0x2346D]) (.node .leaf 0x2F8E4 0x2F8E4 (.sequence [0x688E]) .leaf))) 0x2F8E5 0x2F8E5
  (.sequence [0x681F]) (.node (.node (.node .leaf 0x2F8E6 0x2F8E6 (.sequence [0x6914]) .leaf)
  0x2F8E7 0x2F8E7 (.sequence [0x3B9D]) (.node .leaf 0x2F8E8 0x2F8E8 (.sequence [0x6942]) .leaf))
  0x2F8E9 0x2F8E9 (.sequence [0x69A3]) (.node (.node .leaf 0x2F8EA 0x2F8EA (.sequence [0x69EA])
  .leaf) 0x2F8EB 0x2F8EB (.sequence [0x6AA8]) (.node .leaf 0x2F8EC 0x2F8EC (.sequence
  [0x236A3]) .leaf))))) 0x2F8ED 0x2F8ED (.sequence [0x6ADB]) (.node (.node (.node (.node
  (.node (.node .leaf 0x2F8EE 0x2F8EE (.sequence [0x3C18]) .leaf) 0x2F8EF 0x2F8EF (.sequence
  [0x6B21]) .leaf) 0x2F8F0 0x2F8F0 (.sequence [0x238A7]) (.node .leaf 0x2F8F1 0x2F8F1
  (.sequence [0x6B54]) .leaf)) 0x2F8F2 0x2F8F2 (.sequence [0x3C4E]) (.node (.node .leaf
  0x2F8F3 0x2F8F3 (.sequence [0x6B72]) .leaf) 0x2F8F4 0x2F8F4 (.sequence [0x6B9F]) (.node
  .leaf 0x2F8F5 0x2F8F6 (.consecutive 0x6BBA) .leaf))) 0x2F8F7 0x2F8F7 (.sequence [0x23A8D])
  (.node (.node (.node .leaf 0x2F8F8 0x2F8F8 (.sequence [0x21D0B]) .leaf) 0x2F8F9 0x2F8F9
  (.sequence [0x23AFA]) (.node .leaf 0x2F8FA 0x2F8FA (.sequence [0x6C4E]) .leaf)) 0x2F8FB
  0x2F8FB (.sequence [0x23CBC]) (.node (.node .leaf 0x2F8FC 0x2F8FC (.sequence [0x6CBF]) .leaf)
  0x2F8FD 0x2F8FD (.sequence [0x6CCD]) (.node .leaf 0x2F8FE 0x2F8FE (.sequence [0x6C67]) .leaf))))
  0x2F8FF 0x2F8FF (.sequence [0x6D16]) (.node (.node (.node (.node .leaf 0x2F900 0x2F900
  (.sequence [0x6D3E]) .leaf) 0x2F901 0x2F901 (.sequence [0x6D77]) (.node .leaf 0x2F902
  0x2F902 (.sequence [0x6D41]) .leaf)) 0x2F903 0x2F903 (.sequence [0x6D69]) (.node (.node
  .leaf 0x2F904 0x2F904 (.sequence [0x6D78]) .leaf) 0x2F905 0x2F905 (.sequence [0x6D85])
  (.node .leaf 0x2F906 0x2F906 (.sequence [0x23D1E]) .leaf))) 0x2F907 0x2F907 (.sequence
  [0x6D34]) (.node (.node (.node .leaf 0x2F908 0x2F908 (.sequence [0x6E2F]) .leaf) 0x2F909
  0x2F909 (.sequence [0x6E6E]) (.node .leaf 0x2F90A 0x2F90A (.sequence [0x3D33]) .leaf))
  0x2F90B 0x2F90B (.sequence [0x6ECB]) (.node (.node .leaf 0x2F90C 0x2F90C (.sequence [0x6EC7])
  .leaf) 0x2F90D 0x2F90D (.sequence [0x23ED1]) (.node .leaf 0x2F90E 0x2F90E (.sequence
  [0x6DF9]) .leaf)))))))) 0x2F90F 0x2F90F (.sequence [0x6F6E]) (.node (.node (.node (.node
  (.node (.node (.node (.node (.node .leaf 0x2F910 0x2F910 (.sequence [0x23F5E]) .leaf)
  0x2F911 0x2F911 (.sequence [0x23F8E]) .leaf) 0x2F912 0x2F912 (.sequence [0x6FC6]) (.node
  .leaf 0x2F913 0x2F913 (.sequence [0x7039]) .leaf)) 0x2F914 0x2F914 (.sequence [0x701E])
  (.node (.node .leaf 0x2F915 0x2F915 (.sequence [0x701B]) .leaf) 0x2F916 0x2F916 (.sequence
  [0x3D96]) (.node .leaf 0x2F917 0x2F917 (.sequence [0x704A]) .leaf))) 0x2F918 0x2F918
  (.sequence [0x707D]) (.node (.node (.node .leaf 0x2F919 0x2F919 (.sequence [0x7077]) .leaf)
  0x2F91A 0x2F91A (.sequence [0x70AD]) (.node .leaf 0x2F91B 0x2F91B (.sequence [0x20525])
  .leaf)) 0x2F91C 0x2F91C (.sequence [0x7145]) (.node (.node .leaf 0x2F91D 0x2F91D (.sequence
  [0x24263]) .leaf) 0x2F91E 0x2F91E (.sequence [0x719C]) (.node .leaf 0x2F91F 0x2F91F
  (.sequence [0x243AB]) .leaf)))) 0x2F920 0x2F920 (.sequence [0x7228]) (.node (.node (.node
  (.node (.node .leaf 0x2F921 0x2F921 (.sequence [0x7235]) .leaf) 0x2F922 0x2F922 (.sequence
  [0x7250]) .leaf) 0x2F923 0x2F923 (.sequence [0x24608]) (.node .leaf 0x2F924 0x2F924
  (.sequence [0x7280]) .leaf)) 0x2F925 0x2F925 (.sequence [0x7295]) (.node (.node .leaf
  0x2F926 0x2F926 (.sequence [0x24735]) .leaf) 0x2F927 0x2F927 (.sequence [0x24814]) (.node
  .leaf 0x2F928 0x2F928 (.sequence [0x737A]) .leaf))) 0x2F929 0x2F929 (.sequence [0x738B])
  (.node (.node (.node .leaf 0x2F92A 0x2F92A (.sequence [0x3EAC]) .leaf) 0x2F92B 0x2F92B
  (.sequence [0x73A5]) (.node .leaf 0x2F92C 0x2F92C (.sequence [0x3EB8]) .leaf)) 0x2F92D
  0x2F92D (.sequence [0x3EB8]) (.node (.node .leaf 0x2F92E 0x2F92E (.sequence [0x7447]) .leaf)
  0x2F92F 0x2F92F (.sequence [0x745C]) (.node .leaf 0x2F930 0x2F930 (.sequence [0x7471]) .leaf)))))
  0x2F931 0x2F931 (.sequence [0x7485]) (.node (.node (.node (.node (.node (.node .leaf 0x2F932
  0x2F932 (.sequence [0x74CA]) .leaf) 0x2F933 0x2F933 (.sequence [0x3F1B]) .leaf) 0x2F934
  0x2F934 (.sequence [0x7524]) (.node .leaf 0x2F935 0x2F935 (.sequence [0x24C36]) .leaf))
  0x2F936 0x2F936 (.sequence [0x753E]) (.node (.node .leaf 0x2F937 0x2F937 (.sequence
  [0x24C92]) .leaf) 0x2F938 0x2F938 (.sequence [0x7570]) (.node .leaf 0x2F939 0x2F939
  (.sequence [0x2219F]) .leaf))) 0x2F93A 0x2F93A (.sequence [0x7610]) (.node (.node (.node
  .leaf 0x2F93B 0x2F93B (.sequence [0x24FA1]) .leaf) 0x2F93C 0x2F93C (.sequence [0x24FB8])
  (.node .leaf 0x2F93D 0x2F93D (.sequence [0x25044]) .leaf)) 0x2F93E 0x2F93E (.sequence
  [0x3FFC]) (.node (.node .leaf 0x2F93F 0x2F93F (.sequence [0x4008]) .leaf) 0x2F940 0x2F940
  (.sequence [0x76F4]) (.node .leaf 0x2F941 0x2F941 (.sequence [0x250F3]) .leaf)))) 0x2F942
  0x2F942 (.sequence [0x250F2]) (.node (.node (.node (.node (.node .leaf 0x2F943 0x2F943
  (.sequence [0x25119]) .leaf) 0x2F944 0x2F944 (.sequence [0x25133]) .leaf) 0x2F945 0x2F946
  (.consecutive 0x771E) (.node .leaf 0x2F947 0x2F947 (.sequence [0x771F]) .leaf)) 0x2F948
  0x2F948 (.sequence [0x774A]) (.node (.node .leaf 0x2F949 0x2F949 (.sequence [0x4039]) .leaf)
  0x2F94A 0x2F94A (.sequence [0x778B]) (.node .leaf 0x2F94B 0x2F94B (.sequence [0x4046]) .leaf)))
  0x2F94C 0x2F94C (.sequence [0x4096]) (.node (.node (.node .leaf 0x2F94D 0x2F94D (.sequence
  [0x2541D]) .leaf) 0x2F94E 0x2F94E (.sequence [0x784E]) (.node .leaf 0x2F94F 0x2F94F
  (.sequence [0x788C]) .leaf)) 0x2F950 0x2F950 (.sequence [0x78CC]) (.node (.node .leaf
  0x2F951 0x2F951 (.sequence [0x40E3]) .leaf) 0x2F952 0x2F952 (.sequence [0x25626]) (.node
  .leaf 0x2F953 0x2F953 (.sequence [0x7956]) .leaf)))))) 0x2F954 0x2F954 (.sequence [0x2569A])
  (.node (.node (.node (.node (.node (.node (.node .leaf 0x2F955 0x2F955 (.sequence [0x256C5])
  .leaf) 0x2F956 0x2F956 (.sequence [0x798F]) .leaf) 0x2F957 0x2F957 (.sequence [0x79EB])
  (.node .leaf 0x2F958 0x2F958 (.sequence [0x412F]) .leaf)) 0x2F959 0x2F959 (.sequence
  [0x7A40]) (.node (.node .leaf 0x2F95A 0x2F95A (.sequence [0x7A4A]) .leaf) 0x2F95B 0x2F95B
  (.sequence [0x7A4F]) (.node .leaf 0x2F95C 0x2F95C (.sequence [0x2597C]) .leaf))) 0x2F95D
  0x2F95D (.sequence [0x25AA7]) (.node (.node (.node .leaf 0x2F95E 0x2F95E (.sequence
  [0x25AA7]) .leaf) 0x2F95F 0x2F95F (.sequence [0x7AEE]) (.node .leaf 0x2F960 0x2F960
  (.sequence [0x4202]) .leaf)) 0x2F961 0x2F961 (.sequence [0x25BAB]) (.node (.node .leaf
  0x2F962 0x2F962 (.sequence [0x7BC6]) .leaf) 0x2F963 0x2F963 (.sequence [0x7BC9]) (.node
  .leaf 0x2F964 0x2F964 (.sequence [0x4227]) .leaf)))) 0x2F965 0x2F965 (.sequence [0x25C80])
  (.node (.node (.node (.node (.node .leaf 0x2F966 0x2F966 (.sequence [0x7CD2]) .leaf) 0x2F967
  0x2F967 (.sequence [0x42A0]) .leaf) 0x2F968 0x2F968 (.sequence [0x7CE8]) (.node .leaf
  0x2F969 0x2F969 (.sequence [0x7CE3]) .leaf)) 0x2F96A 0x2F96A (.sequence [0x7D00]) (.node
  (.node .leaf 0x2F96B 0x2F96B (.sequence [0x25F86]) .leaf) 0x2F96C 0x2F96C (.sequence
  [0x7D63]) (.node .leaf 0x2F96D 0x2F96D (.sequence [0x4301]) .leaf))) 0x2F96E 0x2F96E
  (.sequence [0x7DC7]) (.node (.node (.node .leaf 0x2F96F 0x2F96F (.sequence [0x7E02]) .leaf)
  0x2F970 0x2F970 (.sequence [0x7E45]) (.node .leaf 0x2F971 0x2F971 (.sequence [0x4334]) .leaf))
  0x2F972 0x2F972 (.sequence [0x26228]) (.node (.node .leaf 0x2F973 0x2F973 (.sequence
  [0x26247]) .leaf) 0x2F974 0x2F974 (.sequence [0x4359]) (.node .leaf 0x2F975 0x2F975
  (.sequence [0x262D9]) .leaf))))) 0x2F976 0x2F976 (.sequence [0x7F7A]) (.node (.node (.node
  (.node (.node (.node .leaf 0x2F977 0x2F977 (.sequence [0x2633E]) .leaf) 0x2F978 0x2F978
  (.sequence [0x7F95]) .leaf) 0x2F979 0x2F979 (.sequence [0x7FFA]) (.node .leaf 0x2F97A
  0x2F97A (.sequence [0x8005]) .leaf)) 0x2F97B 0x2F97B (.sequence [0x264DA]) (.node (.node
  .leaf 0x2F97C 0x2F97C (.sequence [0x26523]) .leaf) 0x2F97D 0x2F97D (.sequence [0x8060])
  (.node .leaf 0x2F97E 0x2F97E (.sequence [0x265A8]) .leaf))) 0x2F97F 0x2F97F (.sequence
  [0x8070]) (.node (.node (.node .leaf 0x2F980 0x2F980 (.sequence [0x2335F]) .leaf) 0x2F981
  0x2F981 (.sequence [0x43D5]) (.node .leaf 0x2F982 0x2F982 (.sequence [0x80B2]) .leaf))
  0x2F983 0x2F983 (.sequence [0x8103]) (.node (.node .leaf 0x2F984 0x2F984 (.sequence [0x440B])
  .leaf) 0x2F985 0x2F985 (.sequence [0x813E]) (.node .leaf 0x2F986 0x2F986 (.sequence [0x5AB5])
  .leaf)))) 0x2F987 0x2F987 (.sequence [0x267A7]) (.node (.node (.node (.node .leaf 0x2F988
  0x2F988 (.sequence [0x267B5]) .leaf) 0x2F989 0x2F989 (.sequence [0x23393]) (.node .leaf
  0x2F98A 0x2F98A (.sequence [0x2339C]) .leaf)) 0x2F98B 0x2F98B (.sequence [0x8201]) (.node
  (.node .leaf 0x2F98C 0x2F98C (.sequence [0x8204]) .leaf) 0x2F98D 0x2F98D (.sequence [0x8F9E])
  (.node .leaf 0x2F98E 0x2F98E (.sequence [0x446B]) .leaf))) 0x2F98F 0x2F98F (.sequence
  [0x8291]) (.node (.node (.node .leaf 0x2F990 0x2F990 (.sequence [0x828B]) .leaf) 0x2F991
  0x2F991 (.sequence [0x829D]) (.node .leaf 0x2F992 0x2F992 (.sequence [0x52B3]) .leaf))
  0x2F993 0x2F993 (.sequence [0x82B1]) (.node (.node .leaf 0x2F994 0x2F994 (.sequence [0x82B3])
  .leaf) 0x2F995 0x2F995 (.sequence [0x82BD]) (.node .leaf 0x2F996 0x2F996 (.sequence [0x82E6])
  .leaf))))))) 0x2F997 0x2F997 (.sequence [0x26B3C]) (.node (.node (.node (.node (.node (.node
  (.node (.node .leaf 0x2F998 0x2F998 (.sequence [0x82E5]) .leaf) 0x2F999 0x2F999 (.sequence
  [0x831D]) .leaf) 0x2F99A 0x2F99A (.sequence [0x8363]) (.node .leaf 0x2F99B 0x2F99B
  (.sequence [0x83AD]) .leaf)) 0x2F99C 0x2F99C (.sequence [0x8323]) (.node (.node .leaf
  0x2F99D 0x2F99D (.sequence [0x83BD]) .leaf) 0x2F99E 0x2F99E (.sequence [0x83E7]) (.node
  .leaf 0x2F99F 0x2F99F (.sequence [0x8457]) .leaf))) 0x2F9A0 0x2F9A0 (.sequence [0x8353])
  (.node (.node (.node .leaf 0x2F9A1 0x2F9A1 (.sequence [0x83CA]) .leaf) 0x2F9A2 0x2F9A2
  (.sequence [0x83CC]) (.node .leaf 0x2F9A3 0x2F9A3 (.sequence [0x83DC]) .leaf)) 0x2F9A4
  0x2F9A4 (.sequence [0x26C36]) (.node (.node .leaf 0x2F9A5 0x2F9A5 (.sequence [0x26D6B])
  .leaf) 0x2F9A6 0x2F9A6 (.sequence [0x26CD5]) (.node .leaf 0x2F9A7 0x2F9A7 (.sequence
  [0x452B]) .leaf)))) 0x2F9A8 0x2F9A8 (.sequence [0x84F1]) (.node (.node (.node (.node (.node
  .leaf 0x2F9A9 0x2F9A9 (.sequence [0x84F3]) .leaf) 0x2F9AA 0x2F9AA (.sequence [0x8516]) .leaf)
  0x2F9AB 0x2F9AB (.sequence [0x273CA]) (.node .leaf 0x2F9AC 0x2F9AC (.sequence [0x8564])
  .leaf)) 0x2F9AD 0x2F9AD (.sequence [0x26F2C]) (.node (.node .leaf 0x2F9AE 0x2F9AE (.sequence
  [0x455D]) .leaf) 0x2F9AF 0x2F9AF (.sequence [0x4561]) (.node .leaf 0x2F9B0 0x2F9B0
  (.sequence [0x26FB1]) .leaf))) 0x2F9B1 0x2F9B1 (.sequence [0x270D2]) (.node (.node (.node
  .leaf 0x2F9B2 0x2F9B2 (.sequence [0x456B]) .leaf) 0x2F9B3 0x2F9B3 (.sequence [0x8650])
  (.node .leaf 0x2F9B4 0x2F9B4 (.sequence [0x865C]) .leaf)) 0x2F9B5 0x2F9B5 (.sequence
  [0x8667]) (.node (.node .leaf 0x2F9B6 0x2F9B6 (.sequence [0x8669]) .leaf) 0x2F9B7 0x2F9B7
  (.sequence [0x86A9]) (.node .leaf 0x2F9B8 0x2F9B8 (.sequence [0x8688]) .leaf))))) 0x2F9B9
  0x2F9B9 (.sequence [0x870E]) (.node (.node (.node (.node (.node (.node .leaf 0x2F9BA 0x2F9BA
  (.sequence [0x86E2]) .leaf) 0x2F9BB 0x2F9BB (.sequence [0x8779]) .leaf) 0x2F9BC 0x2F9BC
  (.sequence [0x8728]) (.node .leaf 0x2F9BD 0x2F9BD (.sequence [0x876B]) .leaf)) 0x2F9BE
  0x2F9BE (.sequence [0x8786]) (.node (.node .leaf 0x2F9BF 0x2F9BF (.sequence [0x45D7]) .leaf)
  0x2F9C0 0x2F9C0 (.sequence [0x87E1]) (.node .leaf 0x2F9C1 0x2F9C1 (.sequence [0x8801]) .leaf)))
  0x2F9C2 0x2F9C2 (.sequence [0x45F9]) (.node (.node (.node .leaf 0x2F9C3 0x2F9C3 (.sequence
  [0x8860]) .leaf) 0x2F9C4 0x2F9C4 (.sequence [0x8863]) (.node .leaf 0x2F9C5 0x2F9C5
  (.sequence [0x27667]) .leaf)) 0x2F9C6 0x2F9C6 (.sequence [0x88D7]) (.node (.node .leaf
  0x2F9C7 0x2F9C7 (.sequence [0x88DE]) .leaf) 0x2F9C8 0x2F9C8 (.sequence [0x4635]) (.node
  .leaf 0x2F9C9 0x2F9C9 (.sequence [0x88FA]) .leaf)))) 0x2F9CA 0x2F9CA (.sequence [0x34BB])
  (.node (.node (.node (.node .leaf 0x2F9CB 0x2F9CB (.sequence [0x278AE]) .leaf) 0x2F9CC
  0x2F9CC (.sequence [0x27966]) (.node .leaf 0x2F9CD 0x2F9CD (.sequence [0x46BE]) .leaf))
  0x2F9CE 0x2F9CE (.sequence [0x46C7]) (.node (.node .leaf 0x2F9CF 0x2F9CF (.sequence [0x8AA0])
  .leaf) 0x2F9D0 0x2F9D0 (.sequence [0x8AED]) (.node .leaf 0x2F9D1 0x2F9D1 (.sequence [0x8B8A])
  .leaf))) 0x2F9D2 0x2F9D2 (.sequence [0x8C55]) (.node (.node (.node .leaf 0x2F9D3 0x2F9D3
  (.sequence [0x27CA8]) .leaf) 0x2F9D4 0x2F9D4 (.sequence [0x8CAB]) (.node .leaf 0x2F9D5
  0x2F9D5 (.sequence [0x8CC1]) .leaf)) 0x2F9D6 0x2F9D6 (.sequence [0x8D1B]) (.node (.node
  .leaf 0x2F9D7 0x2F9D7 (.sequence [0x8D77]) .leaf) 0x2F9D8 0x2F9D8 (.sequence [0x27F2F])
  (.node .leaf 0x2F9D9 0x2F9D9 (.sequence [0x20804]) .leaf)))))) 0x2F9DA 0x2F9DA (.sequence
  [0x8DCB]) (.node (.node (.node (.node (.node (.node (.node .leaf 0x2F9DB 0x2F9DB (.sequence
  [0x8DBC]) .leaf) 0x2F9DC 0x2F9DC (.sequence [0x8DF0]) .leaf) 0x2F9DD 0x2F9DD (.sequence
  [0x208DE]) (.node .leaf 0x2F9DE 0x2F9DE (.sequence [0x8ED4]) .leaf)) 0x2F9DF 0x2F9DF
  (.sequence [0x8F38]) (.node (.node .leaf 0x2F9E0 0x2F9E0 (.sequence [0x285D2]) .leaf)
  0x2F9E1 0x2F9E1 (.sequence [0x285ED]) (.node .leaf 0x2F9E2 0x2F9E2 (.sequence [0x9094])
  .leaf))) 0x2F9E3 0x2F9E3 (.sequence [0x90F1]) (.node (.node (.node .leaf 0x2F9E4 0x2F9E4
  (.sequence [0x9111]) .leaf) 0x2F9E5 0x2F9E5 (.sequence [0x2872E]) (.node .leaf 0x2F9E6
  0x2F9E6 (.sequence [0x911B]) .leaf)) 0x2F9E7 0x2F9E7 (.sequence [0x9238]) (.node (.node
  .leaf 0x2F9E8 0x2F9E9 (.consecutive 0x92D7) .leaf) 0x2F9EA 0x2F9EA (.sequence [0x927C])
  (.node .leaf 0x2F9EB 0x2F9EB (.sequence [0x93F9]) .leaf)))) 0x2F9EC 0x2F9EC (.sequence
  [0x9415]) (.node (.node (.node (.node (.node .leaf 0x2F9ED 0x2F9ED (.sequence [0x28BFA])
  .leaf) 0x2F9EE 0x2F9EE (.sequence [0x958B]) .leaf) 0x2F9EF 0x2F9EF (.sequence [0x4995])
  (.node .leaf 0x2F9F0 0x2F9F0 (.sequence [0x95B7]) .leaf)) 0x2F9F1 0x2F9F1 (.sequence
  [0x28D77]) (.node (.node .leaf 0x2F9F2 0x2F9F2 (.sequence [0x49E6]) .leaf) 0x2F9F3 0x2F9F3
  (.sequence [0x96C3]) (.node .leaf 0x2F9F4 0x2F9F4 (.sequence [0x5DB2]) .leaf))) 0x2F9F5
  0x2F9F5 (.sequence [0x9723]) (.node (.node (.node .leaf 0x2F9F6 0x2F9F6 (.sequence [0x29145])
  .leaf) 0x2F9F7 0x2F9F7 (.sequence [0x2921A]) (.node .leaf 0x2F9F8 0x2F9F8 (.sequence
  [0x4A6E]) .leaf)) 0x2F9F9 0x2F9F9 (.sequence [0x4A76]) (.node (.node .leaf 0x2F9FA 0x2F9FA
  (.sequence [0x97E0]) .leaf) 0x2F9FB 0x2F9FB (.sequence [0x2940A]) (.node .leaf 0x2F9FC
  0x2F9FC (.sequence [0x4AB2]) .leaf))))) 0x2F9FD 0x2F9FD (.sequence [0x29496]) (.node (.node
  (.node (.node (.node (.node .leaf 0x2F9FE 0x2F9FE (.sequence [0x980B]) .leaf) 0x2F9FF
  0x2F9FF (.sequence [0x980B]) .leaf) 0x2FA00 0x2FA00 (.sequence [0x9829]) (.node .leaf
  0x2FA01 0x2FA01 (.sequence [0x295B6]) .leaf)) 0x2FA02 0x2FA02 (.sequence [0x98E2]) (.node
  (.node .leaf 0x2FA03 0x2FA03 (.sequence [0x4B33]) .leaf) 0x2FA04 0x2FA04 (.sequence [0x9929])
  (.node .leaf 0x2FA05 0x2FA05 (.sequence [0x99A7]) .leaf))) 0x2FA06 0x2FA06 (.sequence
  [0x99C2]) (.node (.node (.node .leaf 0x2FA07 0x2FA07 (.sequence [0x99FE]) .leaf) 0x2FA08
  0x2FA08 (.sequence [0x4BCE]) (.node .leaf 0x2FA09 0x2FA09 (.sequence [0x29B30]) .leaf))
  0x2FA0A 0x2FA0A (.sequence [0x9B12]) (.node (.node .leaf 0x2FA0B 0x2FA0B (.sequence [0x9C40])
  .leaf) 0x2FA0C 0x2FA0C (.sequence [0x9CFD]) (.node .leaf 0x2FA0D 0x2FA0D (.sequence [0x4CCE])
  .leaf)))) 0x2FA0E 0x2FA0E (.sequence [0x4CED]) (.node (.node (.node (.node .leaf 0x2FA0F
  0x2FA0F (.sequence [0x9D67]) .leaf) 0x2FA10 0x2FA10 (.sequence [0x2A0CE]) (.node .leaf
  0x2FA11 0x2FA11 (.sequence [0x4CF8]) .leaf)) 0x2FA12 0x2FA12 (.sequence [0x2A105]) (.node
  (.node .leaf 0x2FA13 0x2FA13 (.sequence [0x2A20E]) .leaf) 0x2FA14 0x2FA14 (.sequence
  [0x2A291]) (.node .leaf 0x2FA15 0x2FA15 (.sequence [0x9EBB]) .leaf))) 0x2FA16 0x2FA16
  (.sequence [0x4D56]) (.node (.node (.node .leaf 0x2FA17 0x2FA17 (.sequence [0x9EF9]) .leaf)
  0x2FA18 0x2FA18 (.sequence [0x9EFE]) (.node .leaf 0x2FA19 0x2FA19 (.sequence [0x9F05]) .leaf))
  0x2FA1A 0x2FA1A (.sequence [0x9F0F]) (.node (.node .leaf 0x2FA1B 0x2FA1B (.sequence [0x9F16])
  .leaf) 0x2FA1C 0x2FA1C (.sequence [0x9F3B]) (.node .leaf 0x2FA1D 0x2FA1D (.sequence
  [0x2A600]) .leaf))))))))

end StreamTable.Unicode
